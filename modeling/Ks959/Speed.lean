import Ks959.Api
import Ks959.Lib.Endian

/-!
# The configuration payload (`ks959_proto.c`, `ks959_rx_monitor.c`)

The library fills a packed structure whose first field is a native 32-bit integer; what goes over
the wire is its memory image, which depends on the host. The tools write the same eight bytes one
by one. `same_on_wire_iff` says for which hosts and rates the two are the same payload.

`ks959_speed_params_t` and its fields `baudrate_le` and `flags` are read as
`ks959_out8_payload_t` with `param0_le` and `param1`, the structure that the header declares.
-/

namespace Ks959
open ByteOrder

/-- `ks959_out8_payload_t` of the library. -/
structure Out8Payload where
  param0Le : UInt32
  param1 : UInt8
  reserved : Vector UInt8 3

/-- The packed structure in the memory of a host. -/
def Out8Payload.image (order : ByteOrder) (p : Out8Payload) : List UInt8 :=
  order.image 4 p.param0Le.toNat ++ p.param1 :: p.reserved.toList

/-- `ks959_proto_fill_speed_params`. -/
def protoFillSpeedParams (params : Option Out8Payload) (baudrate : UInt32) (flags : UInt8) :
    Option Out8Payload :=
  match params with
  | none => none
  | some _ =>
    let params : Out8Payload := ⟨0, 0, #v[0, 0, 0]⟩
    some { params with param0Le := baudrate, param1 := flags }

/-- `ks959_write_le32`, `write_le32`: the four bytes stored behind `out`. -/
def writeLe32 (value : UInt32) : Vector UInt8 4 :=
  #v[(value &&& 0xFF).toUInt8, ((value >>> 8) &&& 0xFF).toUInt8,
    ((value >>> 16) &&& 0xFF).toUInt8, ((value >>> 24) &&& 0xFF).toUInt8]

namespace Tools

/-- `ks959_out8_payload_t` of `ks959_rx_monitor.c`, where the first field is an array of bytes. -/
structure Out8Payload where
  param0Le : Vector UInt8 4
  param1 : UInt8
  reserved : Vector UInt8 3

/-- The structure in memory. -/
def Out8Payload.image (p : Out8Payload) : List UInt8 :=
  p.param0Le.toList ++ p.param1 :: p.reserved.toList

/-- `fill_out8_payload`. -/
def fillOut8Payload (_p : Out8Payload) (param0 : UInt32) (param1 : UInt8) : Out8Payload :=
  let p : Out8Payload := ⟨#v[0, 0, 0, 0], 0, #v[0, 0, 0]⟩
  { p with param0Le := writeLe32 param0, param1 := param1 }

end Tools

/-- A byte cut out of a word by a shift is a digit of the word to the base 256. -/
lemma toUInt8_shift (value : UInt32) {k : UInt32} {d : Nat} (lt : k.toNat < 32)
    (pow : 2 ^ k.toNat = d) : (value >>> k).toUInt8 = UInt8.ofNat (value.toNat / d) := by
  rw [← UInt8.toNat_inj, UInt32.toNat_toUInt8, UInt32.toNat_shiftRight, Nat.mod_eq_of_lt lt,
    Nat.shiftRight_eq_div_pow, UInt8.toNat_ofNat', pow]

/-- A mask of eight bits before the cast to a byte does nothing. -/
lemma toUInt8_masked (value : UInt32) : (value &&& 0xFF).toUInt8 = value.toUInt8 := by
  have low : (value &&& 0xFF).toNat = value.toNat % 256 := by
    rw [UInt32.toNat_and]
    exact Nat.and_two_pow_sub_one_eq_mod value.toNat 8
  rw [← UInt8.toNat_inj, UInt32.toNat_toUInt8, UInt32.toNat_toUInt8, low, Nat.mod_mod]

/-- The four little-endian bytes of a word. -/
lemma littleBytes_word (value : UInt32) :
    littleBytes 4 value.toNat = [value.toUInt8, (value >>> 8).toUInt8, (value >>> 16).toUInt8,
      (value >>> 24).toUInt8] := by
  have b1 : (value >>> 8).toUInt8 = UInt8.ofNat (value.toNat / 256) :=
    toUInt8_shift value (by decide) (by decide)
  have b2 : (value >>> 16).toUInt8 = UInt8.ofNat (value.toNat / 65536) :=
    toUInt8_shift value (by decide) (by decide)
  have b3 : (value >>> 24).toUInt8 = UInt8.ofNat (value.toNat / 16777216) :=
    toUInt8_shift value (by decide) (by decide)
  rw [b1, b2, b3, littleBytes, littleBytes, littleBytes, littleBytes, littleBytes,
    Nat.div_div_eq_div_mul, Nat.div_div_eq_div_mul]
  rfl

/-- `write_le32` stores the little-endian bytes whatever the host. -/
lemma writeLe32_toList (value : UInt32) :
    (writeLe32 value).toList = littleBytes 4 value.toNat := by
  rw [littleBytes_word]
  simp only [writeLe32, toUInt8_masked]
  rfl

/-- Four values that read the same backwards. -/
lemma palindrome_four {α : Type} (a b c d : α) : [a, b, c, d].Palindrome ↔ a = d ∧ b = c := by
  rw [List.Palindrome.iff_reverse_eq]
  constructor
  · intro same
    cases same
    exact ⟨rfl, rfl⟩
  · rintro ⟨rfl, rfl⟩
    rfl

/-- The payload means the same to both writers and to the device: the two memory images agree, they
    are the little-endian rate, the flags and three zeros, and the rate can be read back. -/
structure SameOnWire (order : ByteOrder) (library : Out8Payload) (tool : Tools.Out8Payload)
    (baudrate : UInt32) (flags : UInt8) : Prop where
  agree : library.image order = tool.image
  layout : tool.image = littleBytes 4 baudrate.toNat ++ [flags, 0, 0, 0]
  readable : ofLittle ((library.image order).take 4) = baudrate.toNat

/-- What the library's parameters look like in memory. -/
lemma protoFillSpeedParams_image (order : ByteOrder) (baudrate : UInt32) (flags : UInt8)
    (old : Out8Payload) :
    ∃ p, protoFillSpeedParams (some old) baudrate flags = some p ∧
      p.image order = order.image 4 baudrate.toNat ++ [flags, 0, 0, 0] :=
  ⟨_, rfl, rfl⟩

/-- What the tools' payload looks like in memory. -/
lemma fillOut8Payload_image (baudrate : UInt32) (flags : UInt8) (old : Tools.Out8Payload) :
    (Tools.fillOut8Payload old baudrate flags).image
      = littleBytes 4 baudrate.toNat ++ [flags, 0, 0, 0] := by
  rw [← writeLe32_toList]
  rfl

/-- The library's payload is the tools' exactly on a little-endian host, or for a rate whose bytes
    are the same both ways round. -/
theorem same_on_wire_iff (order : ByteOrder) (baudrate : UInt32) (flags : UInt8)
    (old : Out8Payload) (old' : Tools.Out8Payload) :
    ∃ p, protoFillSpeedParams (some old) baudrate flags = some p ∧
      (SameOnWire order p (Tools.fillOut8Payload old' baudrate flags) baudrate flags ↔
        order = .little ∨
          baudrate.toUInt8 = (baudrate >>> 24).toUInt8 ∧
            (baudrate >>> 8).toUInt8 = (baudrate >>> 16).toUInt8) := by
  obtain ⟨p, filled, image⟩ := protoFillSpeedParams_image order baudrate flags old
  refine ⟨p, filled, ?_⟩
  have tool := fillOut8Payload_image baudrate flags old'
  have lt : baudrate.toNat < 256 ^ 4 := baudrate.toNat_lt
  rw [← palindrome_four, ← littleBytes_word, ← image_eq_little_iff]
  constructor
  · intro same
    have images := same.agree
    rw [image, tool] at images
    exact List.append_cancel_right images
  · intro same
    have agree : p.image order = littleBytes 4 baudrate.toNat ++ [flags, 0, 0, 0] := by
      rw [image, same]
    refine ⟨agree.trans tool.symm, tool, ?_⟩
    rw [agree, List.take_left' length_littleBytes]
    exact ofLittle_littleBytes lt

/-- 9600 baud on a big-endian host: `00 00 25 80` instead of `80 25 00 00`. -/
theorem big_endian_9600 :
    ∃ p, protoFillSpeedParams (some ⟨0, 0, #v[0, 0, 0]⟩) 9600 0x03 = some p ∧
      p.image .big = [0x00, 0x00, 0x25, 0x80, 0x03, 0, 0, 0] ∧
      (Tools.fillOut8Payload ⟨#v[0, 0, 0, 0], 0, #v[0, 0, 0]⟩ 9600 0x03).image
        = [0x80, 0x25, 0x00, 0x00, 0x03, 0, 0, 0] ∧
      ¬ SameOnWire .big p
        (Tools.fillOut8Payload ⟨#v[0, 0, 0, 0], 0, #v[0, 0, 0]⟩ 9600 0x03) 9600 0x03 := by
  refine ⟨_, rfl, by decide, by decide, fun same => ?_⟩
  exact absurd same.agree (by decide)

end Ks959
