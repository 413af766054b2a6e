import HorizonIpc.Frame.Layout
/-!
# Frame.View — looking into a message

`View.ofMessage` decodes the shape of a message from its headers and lays the sections out; a message whose sections
reach behind its end is refused.  The accessors of a view cut the entries out of the sections.
-/
namespace HorizonIpc
namespace Frame

def headerOf (m : Message) : Header := .decode (m.window 0 Header.width)

/-- What stands in the place of the special header. -/
def specialOf (m : Message) : SpecialHeader := .decode (m.window Header.width SpecialHeader.width)

/-- The message with the value of each header field. -/
def label (m : Message) : String := "MessageBuffer \x7b header: " ++ (headerOf m).label ++ " \x7d"

end Frame

/-- A message whose framing has been accepted. -/
structure View where
  message : Message
  shape : Shape
  layout : Layout

namespace View

/-- The view of a message, refused if its sections do not fit it. -/
def ofMessage (m : Message) : Except LayoutError View :=
  let shape := Shape.ofHeaders (Frame.headerOf m) (Frame.specialOf m)
  (Layout.ofShape? shape).map fun layout => ⟨m, shape, layout⟩

/-- The process id that the kernel filled in, if the message has room for one. -/
def pid (v : View) : Option UInt64 :=
  v.layout.pid.map fun start => Bytes.toUInt64 (v.message.window start Layout.pidWidth)

def copyHandles (v : View) : List UInt32 :=
  (v.message.entries v.layout.copyHandles Layout.handleWidth v.shape.copyHandles).map Bytes.toUInt32

def moveHandles (v : View) : List UInt32 :=
  (v.message.entries v.layout.moveHandles Layout.handleWidth v.shape.moveHandles).map Bytes.toUInt32

def sendStatics (v : View) : List StaticDescriptor :=
  (v.message.entries v.layout.sendStatics StaticDescriptor.width v.shape.sendStatics).map .decode

def sendBuffers (v : View) : List BufferDescriptor :=
  (v.message.entries v.layout.sendBuffers BufferDescriptor.width v.shape.sendBuffers).map .decode

def recvBuffers (v : View) : List BufferDescriptor :=
  (v.message.entries v.layout.recvBuffers BufferDescriptor.width v.shape.recvBuffers).map .decode

def recvList (v : View) : List RecvEntry :=
  (v.message.entries v.layout.recvList RecvEntry.width v.shape.recvCount).map .decode

def dataSize (v : View) : Nat := v.shape.dataWords * Layout.wordWidth

def dataWords (v : View) : Bytes := v.message.window v.layout.dataWords v.dataSize

/-- One past the last byte of the data words. -/
def dataStop (v : View) : Nat := v.layout.dataWords + v.dataSize

end View
end HorizonIpc
