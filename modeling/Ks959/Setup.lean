import Ks959.Api

/-!
# Setup builders (`ks959_proto.c`)

The three setup packets of the protocol. All builders do the same thing with different values:
nothing to a null pointer, otherwise clear the packet and fill it in (`buildSetup`).
-/

namespace Ks959

/-- `ks959_zero_setup` on a packet. -/
def zeroSetup : SetupPacket where
  requestType := 0
  request := 0
  value := 0
  index := 0
  length := 0

/-- Clear the packet behind a pointer and fill in its five fields. -/
def buildSetup (setup : Option SetupPacket) (requestType request : UInt8)
    (value index length : UInt16) : Option SetupPacket :=
  match setup with
  | none => none
  | some _ => some { zeroSetup with requestType, request, value, index, length }

/-- `sizeof(ks959_speed_params_t)`. -/
def speedParamsSize : UInt16 := 8

/-- `ks959_proto_build_rx_setup`. -/
def protoBuildRxSetup (setup : Option SetupPacket) : Option SetupPacket :=
  buildSetup setup reqtypeInClassIface reqRecv rxWvalue rxWindex rcvFifoSize

/-- `ks959_proto_build_speed_setup`. -/
def protoBuildSpeedSetup (setup : Option SetupPacket) : Option SetupPacket :=
  buildSetup setup reqtypeOutClassIface reqSend speedWvalue speedWindex speedParamsSize

/-- `ks959_proto_build_tx_setup`. -/
def protoBuildTxSetup (setup : Option SetupPacket) (clearLen paddedLen : UInt16) :
    Option SetupPacket :=
  buildSetup setup reqtypeOutClassIface reqSend clearLen 0 paddedLen

/-- A builder leaves nothing of the packet it is given. -/
lemma buildSetup_some (setup : SetupPacket) (requestType request : UInt8)
    (value index length : UInt16) :
    buildSetup (some setup) requestType request value index length
      = some ⟨requestType, request, value, index, length⟩ := rfl

end Ks959
