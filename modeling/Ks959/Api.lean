import Mathlib

/-!
# The library's data (`ks959.h`, `ks959_proto.h`)

The status codes, the setup packet and the protocol constants that both halves of the library and
the tools share. `ks959_proto.c` writes some of these names differently from the headers; they are
read as follows. `KS959_ERR_INVALID_PARAM` is `KS959_ERR_INVALID_ARG`; `KS959_REQ_SEND` and
`KS959_REQ_RECV` are the requests `0x09` and `0x01`; `bmRequestType`, `bRequest`, `wValue`,
`wIndex` and `wLength` are the five fields of `ks959_setup_packet_t` in their order.
-/

namespace Ks959

/-- `ks959_status_t`. -/
inductive Status where
  | ok
  | errInvalidArg
  | errNoDevice
  | errOpenFailed
  | errWinusbInitFailed
  | errIo
  | errTimeout
  | errNotSupported
  | errBufferTooSmall
  | errProtocol
  | errInternal
deriving DecidableEq, Repr

/-- `ks959_setup_packet_t`. -/
structure SetupPacket where
  requestType : UInt8
  request : UInt8
  value : UInt16
  index : UInt16
  length : UInt16
deriving DecidableEq, Repr

def usbVid : UInt16 := 0x07D0
def usbPid : UInt16 := 0x4959

def reqtypeOutClassIface : UInt8 := 0x21
def reqtypeInClassIface : UInt8 := 0xA1

def reqRecv : UInt8 := 0x01
def reqSend : UInt8 := 0x09

def rxWvalue : UInt16 := 0x0200
def rxWindex : UInt16 := 0x0000

def speedWvalue : UInt16 := 0x0200
def speedWindex : UInt16 := 0x0001

def rcvFifoSize : UInt16 := 2048
def sndPacketSize : UInt64 := 256

def txPaddedOverhead : UInt64 := 16

end Ks959
