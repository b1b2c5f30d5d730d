import Ks959.Device.Ctrl

/-!
# The lengths handed to the USB stack

`ks959_ctrl_write` and `ks959_ctrl_read` compare `setup->length` with the low 16 bits of
`buffer_len` and hand WinUSB its low 32 bits. `Agreeing` is what their checks are for: a transfer
has one length, and arguments that do not have one are turned down. A buffer of 65536 bytes or
more can pass the check with a packet of another length (`long_buffer_disagrees`), and nothing else
goes wrong (`ctrl_lengths_agree_iff`).
-/

namespace Ks959.Device

variable {ι : Type}

/-- The direction bit of a request type: device to host. -/
def directionIn (requestType : UInt8) : Bool := requestType &&& 0x80 != 0

/-- The transfer has the one length of the call, and the other fields of the packet. -/
structure Faithful (dirIn : Bool) (setup : Option SetupPacket) (bufferLen : UInt64)
    (t : ControlTransfer ι) : Prop where
  sameLength : t.packet.length.toNat = t.bufferLength.toNat
  fullLength : t.packet.length.toNat = bufferLen.toNat
  packet : ∃ s, setup = some s ∧ t.packet.requestType = s.requestType ∧
    t.packet.request = s.request ∧ t.packet.value = s.value ∧ t.packet.index = s.index
  direction : directionIn t.packet.requestType = dirIn
  buffer : t.bufferLength ≠ 0 → t.buffer.isSome

/-- There is a transfer with one length for these arguments. -/
def Transferable (dirIn : Bool) (dev : Option Ks959Device) (setup : Option SetupPacket)
    (buffer : Option ι) (bufferLen : UInt64) : Prop :=
  (dev.bind Ks959Device.winusbHandle).isSome ∧
    (∃ s, setup = some s ∧ directionIn s.requestType = dirIn ∧
      s.length.toNat = bufferLen.toNat) ∧
    (bufferLen ≠ 0 → buffer.isSome)

/-- No disagreement about lengths gets past a call: what it issues is faithful, and without a
    faithful transfer it issues nothing and says so. -/
def Agreeing (dirIn : Bool) (dev : Option Ks959Device) (setup : Option SetupPacket)
    (buffer : Option ι) (bufferLen : UInt64) (r : CtrlReturn ι) : Prop :=
  (∀ t ∈ r.issued, Faithful dirIn setup bufferLen t.1) ∧
    (¬ Transferable dirIn dev setup buffer bufferLen →
      r.status = .errInvalidArg ∧ r.issued = [])

/-- The buffer length fits the packet's field, or another check turns the call down anyway. -/
def LengthSafe (dirIn : Bool) (dev : Option Ks959Device) (setup : Option SetupPacket)
    (buffer : Option ι) (bufferLen : UInt64) : Prop :=
  bufferLen.toNat < 65536 ∨ dev.bind Ks959Device.winusbHandle = none ∨ buffer = none ∨
    ∀ s, setup = some s →
      directionIn s.requestType ≠ dirIn ∨ s.length.toNat ≠ bufferLen.toNat % 65536

section
variable {turnsDown : UInt8 → Bool} {dirIn : Bool} {dev : Option Ks959Device}
  {setup : Option SetupPacket} {buffer : Option ι} {bufferLen : UInt64}
  {bytesTransferred : Option UInt64} {winusb : ControlTransfer ι → TransferOutcome}
  {handle : Nat} {s : SetupPacket}

/-- The cast to `uint16_t` that the length is compared with is the remainder modulo 65536. -/
lemma toNat_narrow {length : UInt16} :
    length = bufferLen.toUInt16 ↔ length.toNat = bufferLen.toNat % 65536 := by
  rw [← UInt16.toNat_inj, UInt64.toNat_toUInt16]

-- The checks of a function let through exactly its own direction.
variable (dir : ∀ requestType, turnsDown requestType = !(directionIn requestType == dirIn))
include dir

/-- A direction is let through exactly when it is the function's own. -/
lemma direction_iff {requestType : UInt8} :
    turnsDown requestType = false ↔ directionIn requestType = dirIn := by
  rw [dir]
  simp

/-- What is issued for admissible arguments is faithful exactly when the length fits 16 bits. -/
lemma faithful_iff (adm : Admissible turnsDown dev setup buffer bufferLen handle s) :
    Faithful dirIn setup bufferLen (transferOf handle s buffer bufferLen)
      ↔ bufferLen.toNat < 65536 := by
  have low := toNat_narrow.mp adm.length
  constructor
  · intro faithful
    have full : s.length.toNat = bufferLen.toNat := faithful.fullLength
    have lt := s.length.toNat_lt
    omega
  · intro short
    have narrow : bufferLen.toUInt32.toNat = bufferLen.toNat := by
      rw [UInt64.toNat_toUInt32]
      omega
    refine ⟨?_, ?_, ⟨s, adm.packet, rfl, rfl, rfl, rfl⟩, (direction_iff dir).mp adm.direction, ?_⟩
    · change s.length.toNat = bufferLen.toUInt32.toNat
      omega
    · change s.length.toNat = bufferLen.toNat
      omega
    · intro ne
      apply adm.buffer
      rw [gt_iff_lt, UInt64.pos_iff_ne_zero]
      rintro rfl
      exact ne rfl

/-- Short arguments that pass every check have a faithful transfer. -/
lemma transferable_of_admissible
    (adm : Admissible turnsDown dev setup buffer bufferLen handle s)
    (short : bufferLen.toNat < 65536) : Transferable dirIn dev setup buffer bufferLen := by
  have low := toNat_narrow.mp adm.length
  refine ⟨?_, ⟨s, adm.packet, (direction_iff dir).mp adm.direction, by omega⟩, ?_⟩
  · rw [adm.device]
    rfl
  · intro ne
    exact adm.buffer (UInt64.pos_iff_ne_zero.mpr ne)

/-- Only arguments that pass every check are not `LengthSafe`. -/
lemma admissible_of_not_lengthSafe (risky : ¬ LengthSafe dirIn dev setup buffer bufferLen) :
    ∃ handle s, Admissible turnsDown dev setup buffer bufferLen handle s := by
  simp only [LengthSafe, not_or, not_forall, not_not] at risky
  obtain ⟨_, device, nonnull, s, packet, direction, length⟩ := risky
  obtain ⟨handle, device⟩ := Option.ne_none_iff_exists'.mp device
  refine ⟨handle, s, device, packet, (direction_iff dir).mpr direction, toNat_narrow.mpr length, ?_⟩
  exact fun _ => Option.isSome_iff_ne_none.mpr nonnull

/-- Arguments that pass every check are `LengthSafe` only when the length fits 16 bits. -/
lemma short_of_lengthSafe (adm : Admissible turnsDown dev setup buffer bufferLen handle s)
    (safe : LengthSafe dirIn dev setup buffer bufferLen) : bufferLen.toNat < 65536 := by
  rcases safe with short | closed | null | other
  · exact short
  · rw [adm.device] at closed
    cases closed
  · by_contra long
    have held := adm.buffer (by rw [gt_iff_lt, UInt64.lt_iff_toNat_lt, UInt64.toNat_zero]; omega)
    rw [null] at held
    cases held
  · rcases other s adm.packet with turned | length
    · exact absurd ((direction_iff dir).mp adm.direction) turned
    · exact absurd (toNat_narrow.mp adm.length) length

/-- Both functions agree about lengths exactly on the length-safe arguments. -/
lemma agreeing_iff :
    Agreeing dirIn dev setup buffer bufferLen
        (ctrlTransfer turnsDown dev setup buffer bufferLen bytesTransferred winusb)
      ↔ LengthSafe dirIn dev setup buffer bufferLen := by
  by_cases adm : ∃ handle s, Admissible turnsDown dev setup buffer bufferLen handle s
  · obtain ⟨handle, s, adm⟩ := adm
    obtain ⟨answer, issued⟩ : ∃ answer,
        (ctrlTransfer turnsDown dev setup buffer bufferLen bytesTransferred winusb).issued
          = [(transferOf handle s buffer bufferLen, answer)] := by
      rw [ctrlTransfer_admissible adm]
      cases winusb (transferOf handle s buffer bufferLen) <;> exact ⟨_, rfl⟩
    have faithful := faithful_iff dir adm
    rw [Agreeing, issued]
    constructor
    · rintro ⟨all, _⟩
      exact .inl (faithful.mp (all _ (List.mem_singleton_self _)))
    · intro safe
      have short := short_of_lengthSafe dir adm safe
      refine ⟨?_, fun cannot => absurd (transferable_of_admissible dir adm short) cannot⟩
      intro t mem
      rw [List.mem_singleton.mp mem]
      exact faithful.mpr short
  · have inadm : ∀ handle s, ¬ Admissible turnsDown dev setup buffer bufferLen handle s :=
      fun handle s h => adm ⟨handle, s, h⟩
    have safe : LengthSafe dirIn dev setup buffer bufferLen := by
      by_contra risky
      exact adm (admissible_of_not_lengthSafe dir risky)
    rw [ctrlTransfer_rejected inadm]
    exact ⟨fun _ => safe, fun _ => ⟨nofun, fun _ => ⟨rfl, rfl⟩⟩⟩

end

/-- No disagreement about lengths gets past `ctrlWrite` and `ctrlRead` exactly when the buffer
    length fits 16 bits or another check turns the call down. -/
theorem ctrl_lengths_agree_iff (dev : Option Ks959Device) (setup : Option SetupPacket)
    (buffer : Option ι) (bufferLen : UInt64) (bytesTransferred : Option UInt64)
    (winusb : ControlTransfer ι → TransferOutcome) :
    (Agreeing false dev setup buffer bufferLen
        (ctrlWrite dev setup buffer bufferLen bytesTransferred winusb)
      ↔ LengthSafe false dev setup buffer bufferLen) ∧
    (Agreeing true dev setup buffer bufferLen
        (ctrlRead dev setup buffer bufferLen bytesTransferred winusb)
      ↔ LengthSafe true dev setup buffer bufferLen) := by
  constructor
  · apply agreeing_iff
    intro requestType
    simp [directionIn]
  · apply agreeing_iff
    intro requestType
    simp [directionIn, bne]

/-- A buffer of 65544 bytes passes for a packet of 8, and WinUSB is told both lengths. -/
theorem long_buffer_disagrees :
    (ctrlWrite (ι := Unit) (some ⟨some 1, some 2, usbVid, usbPid, 0⟩)
        (some ⟨0x21, 0x09, 0x0200, 0, 8⟩) (some ()) 65544 (some 0) (fun _ => .done 8)).issued
      = [(⟨2, ⟨0x21, 0x09, 0x0200, 0, 8⟩, some (), 65544⟩, .done 8)] ∧
    ¬ Agreeing false (some ⟨some 1, some 2, usbVid, usbPid, 0⟩)
        (some ⟨0x21, 0x09, 0x0200, 0, 8⟩) (some ()) 65544
        (ctrlWrite (some ⟨some 1, some 2, usbVid, usbPid, 0⟩)
          (some ⟨0x21, 0x09, 0x0200, 0, 8⟩) (some ()) 65544 (some 0) (fun _ => .done 8)) := by
  refine ⟨by decide, ?_⟩
  intro agreeing
  have faithful := agreeing.1 (⟨2, ⟨0x21, 0x09, 0x0200, 0, 8⟩, some (), 65544⟩, .done 8) (by decide)
  exact absurd faithful.sameLength (by decide)

end Ks959.Device
