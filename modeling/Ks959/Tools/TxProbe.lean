import Ks959.Tx.Proto

/-!
# The encoder of the handshake probe (`aladin_handshake_probe.c`)

`txObfuscate` is the probe's copy of the library encoder. Both compute the same padded length; the
library asks whether it is `0`, its own sign for "does not fit", and the probe only compares it
with the buffer. `encoders_agree_iff` compares the two on every argument: they part company where
the sum wraps to `0` itself, in the eight lengths up to `2 ^ 64 - 16`.
-/

namespace Ks959.Tools
open CMemory Tx

/-- `ks959_tx_padded_length`. -/
def txPaddedLength (clearLen : UInt64) : UInt64 := ((clearLen + 7) &&& ~~~7) + 16

/-- What `ks959_tx_obfuscate` returns and leaves behind its pointers. -/
structure TxObfuscated (ι : Type) where
  ret : Int
  outLen : Option UInt64
  mem : Mem ι UInt8

variable {ι : Type} [DecidableEq ι]

/-- `ks959_tx_obfuscate`. -/
def txObfuscate (mem : Mem ι UInt8) (clearBuf : Option ι) (clearLen : UInt64) (outBuf : Option ι)
    (outBufSize : UInt64) (outLen : Option UInt64) : Option (TxObfuscated ι) :=
  match clearBuf, outBuf, outLen with
  | some src, some dst, some _ =>
    if clearLen = 0 then
      some ⟨-1, outLen, mem⟩
    else do
      let paddedLen := txPaddedLength clearLen
      if paddedLen > outBufSize then
        some ⟨-1, outLen, mem⟩
      else do
        let mem ← mem.write dst (List.replicate paddedLen.toNat 0)
        let key ← lookupString[((clearLen &&& 0x0F) ^^^ 0x06).toNat]?
        let mask := key ^^^ 0x55
        let mem ← maskLoop src dst mask clearLen.toNat 0 mem
        some ⟨0, some paddedLen, mem⟩
  | _, _, _ => some ⟨-1, outLen, mem⟩

/-- The two encoders make the same decision: both succeed, with the same length and the same bytes,
    or both give up, or neither returns. -/
inductive EncodersAgree : Option (TxReturn ι) → Option (TxObfuscated ι) → Prop where
  | succeed {r t} (ok : r.status = .ok) (zero : t.ret = 0) (outLen : t.outLen = r.outLen)
      (bytes : t.mem = r.mem) : EncodersAgree (some r) (some t)
  | fail {r t} (error : r.status ≠ .ok) (negative : t.ret ≠ 0) : EncodersAgree (some r) (some t)
  | fault : EncodersAgree none none

/-- What both encoders do once they have decided to: clear the padded length, mask the bytes. -/
def fill (mem : Mem ι UInt8) (src dst : ι) (clearLen paddedLen : UInt64) :
    Option (Mem ι UInt8) := do
  let mem ← mem.write dst (List.replicate paddedLen.toNat 0)
  let key ← lookupString[((clearLen &&& 0x0F) ^^^ 0x06).toNat]?
  maskLoop src dst (key ^^^ 0x55) clearLen.toNat 0 mem

variable {mem : Mem ι UInt8} {src dst : ι} {clearLen outBufSize outLen : UInt64}

/-- The library fills when its padded length is not `0`. -/
lemma library_fills :
    protoObfuscateTxFragment mem (some src) clearLen (some dst) outBufSize (some outLen)
      = if protoGetTxPaddedLength clearLen outBufSize = 0
          then some ⟨.errBufferTooSmall, some outLen, mem⟩
          else (fill mem src dst clearLen (protoGetTxPaddedLength clearLen outBufSize)).map
            fun m => ⟨.ok, some (protoGetTxPaddedLength clearLen outBufSize), m⟩ := by
  simp only [protoObfuscateTxFragment, fill, Option.bind_eq_bind, Option.map_eq_bind,
    Option.bind_assoc]
  rfl

/-- The probe fills when its padded length is within the buffer. -/
lemma probe_fills (ne : clearLen ≠ 0) (fits : ¬ padded clearLen > outBufSize) :
    txObfuscate mem (some src) clearLen (some dst) outBufSize (some outLen)
      = (fill mem src dst clearLen (padded clearLen)).map
          fun m => ⟨0, some (padded clearLen), m⟩ := by
  have fits' : ¬ txPaddedLength clearLen > outBufSize := fits
  simp only [txObfuscate, fill, if_neg ne, if_neg fits', Option.bind_eq_bind, Option.map_eq_bind,
    Option.bind_assoc]
  rfl

/-- The probe turns an empty fragment down, and one that does not fit, and writes nothing. -/
lemma probe_rejects (reject : clearLen = 0 ∨ padded clearLen > outBufSize) :
    txObfuscate mem (some src) clearLen (some dst) outBufSize (some outLen)
      = some ⟨-1, some outLen, mem⟩ := by
  rcases eq_or_ne clearLen 0 with zero | ne
  · simp only [txObfuscate, if_pos zero]
  · have beyond : txPaddedLength clearLen > outBufSize := reject.resolve_left ne
    simp only [txObfuscate, if_neg ne, if_pos beyond]

/-- The lengths whose padded length wraps to `0`. -/
lemma padded_eq_zero_iff :
    padded clearLen = 0 ↔ 2 ^ 64 - 24 < clearLen.toNat ∧ clearLen.toNat ≤ 2 ^ 64 - 16 := by
  have sum := @toNat_padded_cases clearLen
  rw [← UInt64.toNat_inj, UInt64.toNat_zero]
  unfold paddedLength at sum
  omega

/-- On two real pointers the encoders agree exactly when the padded length is not `0`. -/
lemma agree_of_pointers :
    EncodersAgree
        (protoObfuscateTxFragment mem (some src) clearLen (some dst) outBufSize (some outLen))
        (txObfuscate mem (some src) clearLen (some dst) outBufSize (some outLen))
      ↔ padded clearLen ≠ 0 := by
  rcases eq_or_ne clearLen 0 with zero | ne
  · subst zero
    have none : protoGetTxPaddedLength 0 outBufSize = 0 := rfl
    rw [library_fills, if_pos none, probe_rejects (.inl rfl)]
    exact ⟨fun _ => by decide, fun _ => .fail nofun (by simp)⟩
  · by_cases beyond : padded clearLen > outBufSize
    · have none : protoGetTxPaddedLength clearLen outBufSize = 0 := by
        simp only [protoGetTxPaddedLength, if_neg ne, if_pos beyond]
      have nonzero : padded clearLen ≠ 0 := by
        intro zero
        rw [zero] at beyond
        exact absurd beyond (UInt64.not_lt_zero)
      rw [library_fills, if_pos none, probe_rejects (.inr beyond)]
      exact ⟨fun _ => nonzero, fun _ => .fail nofun (by simp)⟩
    · have same : protoGetTxPaddedLength clearLen outBufSize = padded clearLen := by
        simp only [protoGetTxPaddedLength, if_neg ne, if_neg beyond]
      rw [library_fills, same, probe_fills ne beyond]
      constructor
      · intro agree zero
        -- the library gives up, the probe fills
        rw [if_pos zero] at agree
        cases filled : fill mem src dst clearLen (padded clearLen) with
        | none =>
          rw [filled] at agree
          cases agree
        | some m =>
          rw [filled] at agree
          cases agree with
          | succeed ok => cases ok
          | fail _ negative => exact negative rfl
      · intro nonzero
        rw [if_neg nonzero]
        cases fill mem src dst clearLen (padded clearLen) with
        | none => exact .fault
        | some m => exact .succeed rfl rfl rfl rfl

/-- The probe's encoder and the library's make the same decision on every argument, except where
    the padded length wraps to `0`. -/
theorem encoders_agree_iff (mem : Mem ι UInt8) (clearBuf outBuf : Option ι)
    (clearLen outBufSize : UInt64) (outLen : Option UInt64) :
    EncodersAgree (protoObfuscateTxFragment mem clearBuf clearLen outBuf outBufSize outLen)
        (txObfuscate mem clearBuf clearLen outBuf outBufSize outLen)
      ↔ clearBuf = none ∨ outBuf = none ∨ outLen = none ∨
        clearLen.toNat ≤ 2 ^ 64 - 24 ∨ 2 ^ 64 - 16 < clearLen.toNat := by
  have null (lib : protoObfuscateTxFragment mem clearBuf clearLen outBuf outBufSize outLen
        = some ⟨.errInvalidArg, outLen, mem⟩)
      (tool : txObfuscate mem clearBuf clearLen outBuf outBufSize outLen
        = some ⟨-1, outLen, mem⟩) :
      EncodersAgree (protoObfuscateTxFragment mem clearBuf clearLen outBuf outBufSize outLen)
        (txObfuscate mem clearBuf clearLen outBuf outBufSize outLen) := by
    rw [lib, tool]
    exact .fail nofun (by simp)
  cases clearBuf with
  | none => exact ⟨fun _ => .inl rfl, fun _ => null rfl rfl⟩
  | some src =>
    cases outBuf with
    | none => exact ⟨fun _ => .inr (.inl rfl), fun _ => null rfl rfl⟩
    | some dst =>
      cases outLen with
      | none => exact ⟨fun _ => .inr (.inr (.inl rfl)), fun _ => null rfl rfl⟩
      | some old =>
        rw [agree_of_pointers, Ne, padded_eq_zero_iff]
        simp
        omega

/-- The masking loop runs through when both objects have the cells. -/
lemma maskLoop_total (xorMask : UInt8) {left i : Nat} (src_holds : i + left ≤ (mem src).length)
    (dst_holds : i + left ≤ (mem dst).length) :
    ∃ m, maskLoop src dst xorMask left i mem = some m := by
  induction left generalizing i mem with
  | zero => exact ⟨_, rfl⟩
  | succ left ih =>
    have read : mem.load src i = some (mem src)[i] := List.getElem?_eq_getElem (by omega)
    obtain ⟨m, write, len⟩ :
        ∃ m, mem.store dst i ((mem src)[i] ^^^ xorMask) = some m ∧
          ∀ q, (m q).length = (mem q).length := by
      refine ⟨_, if_pos (by omega), fun q => ?_⟩
      rcases eq_or_ne q dst with rfl | ne
      · rw [Function.update_self, List.length_set]
      · rw [Function.update_of_ne ne]
    rw [maskLoop_succ read write]
    apply ih
    · rw [len]
      omega
    · rw [len]
      omega

/-- Where the padded length wraps to `0` the library gives up at once; the probe masks the whole
    fragment and reports a payload of no bytes. -/
lemma probe_of_wrapped (outBufSize outLen : UInt64) (wrapped : padded clearLen = 0)
    (src_holds : clearLen.toNat ≤ (mem src).length)
    (dst_holds : clearLen.toNat ≤ (mem dst).length) :
    protoObfuscateTxFragment mem (some src) clearLen (some dst) outBufSize (some outLen)
        = some ⟨.errBufferTooSmall, some outLen, mem⟩ ∧
      ∃ m, txObfuscate mem (some src) clearLen (some dst) outBufSize (some outLen)
        = some ⟨0, some 0, m⟩ := by
  have ne : clearLen ≠ 0 := by
    rintro rfl
    exact absurd wrapped (by decide)
  have fits : ¬ padded clearLen > outBufSize := by
    rw [wrapped]
    exact UInt64.not_lt_zero
  have none : protoGetTxPaddedLength clearLen outBufSize = 0 := by
    simp only [protoGetTxPaddedLength, if_neg ne, if_neg fits]
    exact wrapped
  constructor
  · rw [library_fills, if_pos none]
  · have nothing : mem.write dst (List.replicate (0 : UInt64).toNat 0) = some mem := by
      rw [Mem.write_eq (Nat.zero_le _)]
      exact congrArg some Mem.splice_nil
    have src_holds' : 0 + clearLen.toNat ≤ (mem src).length := by rwa [Nat.zero_add]
    have dst_holds' : 0 + clearLen.toNat ≤ (mem dst).length := by rwa [Nat.zero_add]
    obtain ⟨m, run⟩ := maskLoop_total (mask clearLen.toNat) src_holds' dst_holds'
    have filled : fill mem src dst clearLen 0 = some m := by
      simp only [fill, nothing, lookup_eq, Option.bind_eq_bind, Option.bind_some]
      exact run
    rw [probe_fills ne fits, wrapped, filled]
    exact ⟨m, rfl⟩

/-- Two objects that fill the address space. -/
def wholeMemory : Mem Bool UInt8 := fun _ => List.replicate (2 ^ 64) 0

/-- A length of `2 ^ 64 - 20`, with objects that have as many cells. -/
theorem probe_accepts_wrapped :
    ∃ (mem : Mem Bool UInt8) (t : TxObfuscated Bool),
      protoObfuscateTxFragment mem (some false) 0xFFFFFFFFFFFFFFEC (some true) 256 (some 7)
        = some ⟨.errBufferTooSmall, some 7, mem⟩ ∧
      txObfuscate mem (some false) 0xFFFFFFFFFFFFFFEC (some true) 256 (some 7) = some t ∧
      t.ret = 0 ∧ t.outLen = some 0 ∧
      ¬ EncodersAgree
        (protoObfuscateTxFragment mem (some false) 0xFFFFFFFFFFFFFFEC (some true) 256 (some 7))
        (txObfuscate mem (some false) 0xFFFFFFFFFFFFFFEC (some true) 256 (some 7)) := by
  have wrapped : padded 0xFFFFFFFFFFFFFFEC = 0 := by decide
  have holds (p : Bool) : (0xFFFFFFFFFFFFFFEC : UInt64).toNat ≤ (wholeMemory p).length := by
    rw [wholeMemory, List.length_replicate]
    decide
  obtain ⟨library, m, probe⟩ := probe_of_wrapped 256 7 wrapped (holds false) (holds true)
  refine ⟨_, _, library, probe, rfl, rfl, ?_⟩
  rw [agree_of_pointers]
  exact not_not.mpr wrapped

end Ks959.Tools
