/-!
# Version — system versions

Some commands exist only from a system version on.  A version is one word with the major, minor and patch numbers in
its three low bytes, and versions are compared as words.
-/
namespace HorizonIpc

/-- A system version. -/
structure Version where
  word : UInt32
  deriving DecidableEq

namespace Version

/-- The bit that custom firmware sets in a packed version; it is no part of the version. -/
def customBit : UInt32 := 0x80000000

def ofParts (major minor patch : UInt8) : Version :=
  ⟨(major.toUInt32 <<< (16 : UInt32)) ||| (minor.toUInt32 <<< (8 : UInt32)) ||| patch.toUInt32⟩

/-- The version in a packed word, without the custom-firmware bit. -/
def ofWord (word : UInt32) : Version := ⟨word &&& ~~~customBit⟩

instance : Inhabited Version := ⟨⟨0⟩⟩

def major (v : Version) : UInt8 := (v.word >>> (16 : UInt32)).toUInt8

def minor (v : Version) : UInt8 := (v.word >>> (8 : UInt32)).toUInt8

def patch (v : Version) : UInt8 := v.word.toUInt8

instance : LE Version := ⟨fun a b => a.word ≤ b.word⟩

instance : LT Version := ⟨fun a b => a.word < b.word⟩

instance (a b : Version) : Decidable (a ≤ b) := inferInstanceAs (Decidable (a.word ≤ b.word))

instance (a b : Version) : Decidable (a < b) := inferInstanceAs (Decidable (a.word < b.word))

instance : Ord Version := ⟨fun a b => compare a.word b.word⟩

def text (v : Version) : String :=
  toString v.major.toNat ++ "." ++ toString v.minor.toNat ++ "." ++ toString v.patch.toNat

end Version
end HorizonIpc
