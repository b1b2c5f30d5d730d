import Ks959.Tx.Proto

/-!
# What the library encoder leaves in memory

The encoder cell by cell, read off `encode`. Which lengths a buffer accepts is the inversion of the
padding rule (`accepted_iff`), what the buffer holds afterwards is `Payload`, and `TxCall.cut` is
the call with every cell behind `out_buf_size` taken away: as an access out of bounds faults, that
it runs says that nothing is written there. `obfuscate_layout` is the whole specification.
-/

namespace Ks959.Tx
open CMemory

variable {ι : Type} [DecidableEq ι]

/-- What a successful call reports and leaves in the output buffer: the masked fragment, zeros up
    to the padded length, and behind them the old cells. -/
structure Payload (c : TxCall ι) (r : TxReturn ι) (outLen : Nat) : Prop where
  reported : ∃ n, r.outLen = some n ∧ n.toNat = outLen
  least : ∃ m, IsLeast {m | 8 ∣ m ∧ c.clearLen.toNat ≤ m} m ∧ outLen = m + 16
  masked : ∀ i < c.clearLen.toNat, ∃ b, c.mem.load c.clearBuf i = some b ∧
    r.mem.load c.outBuf i = some (b ^^^ mask (c.clearLen.toNat % 16))
  zeros : ∀ i, c.clearLen.toNat ≤ i → i < outLen → r.mem.load c.outBuf i = some 0
  behind : ∀ i, outLen ≤ i → r.mem.load c.outBuf i = c.mem.load c.outBuf i
  elsewhere : ∀ q, q ≠ c.outBuf → r.mem q = c.mem q

/-- The mask depends on the length modulo 16 only. -/
lemma mask_mod (n : Nat) : mask (n % 16) = mask n := by
  rw [mask, Nat.mod_mod, mask]

/-- The packet starts with the masked fragment. -/
lemma getElem?_encode_masked {fragment : List UInt8} {i : Nat} {b : UInt8}
    (here : fragment[i]? = some b) :
    (encode fragment)[i]? = some (b ^^^ mask fragment.length) := by
  have lt : i < (fragment.map (· ^^^ mask fragment.length)).length := by
    rw [List.length_map]
    exact (List.getElem?_eq_some_iff.mp here).1
  rw [encode, List.getElem?_append_left lt, List.getElem?_map, here]
  rfl

/-- The packet is filled up with zeros. -/
lemma getElem?_encode_zeros {fragment : List UInt8} {i : Nat} (ge : fragment.length ≤ i)
    (lt : i < paddedLength fragment.length) : (encode fragment)[i]? = some 0 := by
  rw [encode, List.getElem?_append_right (by rwa [List.length_map]), List.length_map,
    List.getElem?_replicate_of_lt (by omega)]

/-- A call that does not succeed leaves the memory and `*out_len` alone, whatever its pointers. -/
lemma untouched_of_error {mem : Mem ι UInt8} {clearBuf outBuf : Option ι}
    {clearLen outBufSize : UInt64} {outLen : Option UInt64} {r : TxReturn ι}
    (run : protoObfuscateTxFragment mem clearBuf clearLen outBuf outBufSize outLen = some r)
    (error : r.status ≠ .ok) : r.mem = mem ∧ r.outLen = outLen := by
  unfold protoObfuscateTxFragment at run
  split at run
  · dsimp only at run
    split at run
    · cases run
      exact ⟨rfl, rfl⟩
    · obtain ⟨zeroed, _, run⟩ := Option.bind_eq_some_iff.mp run
      obtain ⟨key, _, run⟩ := Option.bind_eq_some_iff.mp run
      obtain ⟨masked, _, run⟩ := Option.bind_eq_some_iff.mp run
      cases run
      exact absurd rfl error
  · cases run
    exact ⟨rfl, rfl⟩

namespace TxCall

variable {c : TxCall ι}

omit [DecidableEq ι] in
/-- The fragments that fit, told by the buffer size. -/
lemma accepted_iff : c.Accepted ↔ 24 ≤ c.outBufSize.toNat ∧ 1 ≤ c.clearLen.toNat ∧
    c.clearLen.toNat ≤ 8 * ((c.outBufSize.toNat - 16) / 8) := by
  unfold Accepted paddedLength
  omega

omit [DecidableEq ι] in
/-- The 256-byte packet takes fragments of 1 to 240 bytes. -/
lemma accepted_packet (size : c.outBufSize = sndPacketSize) :
    c.Accepted ↔ 1 ≤ c.clearLen.toNat ∧ c.clearLen.toNat ≤ 240 := by
  have bytes : c.outBufSize.toNat = 256 := by
    rw [size]
    rfl
  rw [accepted_iff, bytes]
  omega

/-- A successful call leaves its payload. -/
lemma payload_of_ok {r : TxReturn ι} (run : c.run = some r) (ok : r.status = .ok) :
    Payload c r (paddedLength c.clearLen.toNat) := by
  obtain ⟨paddedLen, len, done⟩ := run_of_accepted ((run_ok_iff run).mp ok)
  rw [run, Option.some.injEq] at done
  subst done
  have size : (encode c.fragment).length = paddedLength c.clearLen.toNat := by
    rw [length_encode, length_fragment]
  have short : c.clearLen.toNat ≤ paddedLength c.clearLen.toNat := by
    unfold paddedLength
    omega
  refine ⟨⟨_, rfl, len⟩, ⟨_, Align.isLeast_roundUp (by decide) _, rfl⟩, ?_, ?_, ?_, ?_⟩
  · intro i lt
    have inside : i < (c.mem c.clearBuf).length := Nat.lt_of_lt_of_le lt c.clearBuf_holds
    have here : c.fragment[i]? = some (c.mem c.clearBuf)[i] := by
      rw [fragment, List.getElem?_take_of_lt lt, List.getElem?_eq_getElem inside]
    refine ⟨_, List.getElem?_eq_getElem inside, ?_⟩
    rw [Mem.load_splice_inside (by omega), getElem?_encode_masked here, length_fragment, mask_mod]
  · intro i ge lt
    rw [Mem.load_splice_inside (by omega)]
    apply getElem?_encode_zeros
    · rwa [length_fragment]
    · rwa [length_fragment]
  · intro i ge
    exact Mem.load_splice fun _ => by rwa [size]
  · intro q ne
    exact Mem.splice_other ne

/-- The call with the output object cut down to the `out_buf_size` cells that it names. -/
def cut (c : TxCall ι) : TxCall ι :=
  { c with
    mem := Function.update c.mem c.outBuf ((c.mem c.outBuf).take c.outBufSize.toNat)
    clearBuf_holds := by
      rw [Function.update_of_ne c.apart]
      exact c.clearBuf_holds
    outBuf_holds := by
      rw [Function.update_self, List.length_take_of_le c.outBuf_holds] }

/-- The object that has been cut down is as large as the call says. -/
lemma length_cut : (c.cut.mem c.cut.outBuf).length = c.outBufSize.toNat := by
  change (Function.update c.mem c.outBuf ((c.mem c.outBuf).take _) c.outBuf).length = _
  rw [Function.update_self, List.length_take_of_le c.outBuf_holds]

/-- The call needs no cell behind `out_buf_size`. -/
lemma cut_run {r : TxReturn ι} (run : c.run = some r) :
    ∃ r', c.cut.run = some r' ∧ r'.status = r.status ∧ r'.outLen = r.outLen := by
  by_cases accepted : c.Accepted
  · obtain ⟨n, len, done⟩ := run_of_accepted accepted
    obtain ⟨n', len', done'⟩ := run_of_accepted (c := c.cut) accepted
    have same : n' = n := UInt64.toNat_inj.mp (len'.trans len.symm)
    rw [run, Option.some.injEq] at done
    subst done same
    exact ⟨_, done', rfl, rfl⟩
  · have done := run_of_rejected accepted
    rw [run, Option.some.injEq] at done
    subst done
    exact ⟨_, run_of_rejected (c := c.cut) accepted, rfl, rfl⟩

/-- A call on real buffers returns. -/
lemma run_total (c : TxCall ι) : ∃ r, c.run = some r := by
  by_cases accepted : c.Accepted
  · obtain ⟨_, _, run⟩ := run_of_accepted accepted
    exact ⟨_, run⟩
  · exact ⟨_, run_of_rejected accepted⟩

end TxCall

/-- The encoder accepts what fits, writes the payload of what it accepts and nothing else, and
    touches nothing when it does not succeed. -/
theorem obfuscate_layout (c : TxCall ι) :
    (∃ r, c.run = some r ∧
      (r.status = .ok ↔ 24 ≤ c.outBufSize.toNat ∧ 1 ≤ c.clearLen.toNat ∧
        c.clearLen.toNat ≤ 8 * ((c.outBufSize.toNat - 16) / 8)) ∧
      (c.outBufSize = sndPacketSize →
        (r.status = .ok ↔ 1 ≤ c.clearLen.toNat ∧ c.clearLen.toNat ≤ 240)) ∧
      (r.status = .ok → ∃ outLen, outLen ≤ c.outBufSize.toNat ∧ Payload c r outLen) ∧
      (c.cut.mem c.outBuf).length = c.outBufSize.toNat ∧
      ∃ r', c.cut.run = some r' ∧ r'.status = r.status ∧ r'.outLen = r.outLen) ∧
    ((c.clearLen &&& 0x0F) ^^^ 0x06).toNat < 16 ∧
    ∀ (clearBuf outBuf : Option ι) (outLen : Option UInt64) (r : TxReturn ι),
      protoObfuscateTxFragment c.mem clearBuf c.clearLen outBuf c.outBufSize outLen = some r →
      r.status ≠ .ok → r.mem = c.mem ∧ r.outLen = outLen := by
  obtain ⟨r, run⟩ := c.run_total
  have ok := TxCall.run_ok_iff run
  refine ⟨⟨r, run, ok.trans TxCall.accepted_iff, ?_, ?_, TxCall.length_cut, TxCall.cut_run run⟩,
    toNat_index c.clearLen ▸ lookup_index_lt c.clearLen.toNat, ?_⟩
  · intro size
    exact ok.trans (TxCall.accepted_packet size)
  · intro success
    exact ⟨_, (ok.mp success).2, TxCall.payload_of_ok run success⟩
  · intro clearBuf outBuf outLen r' run' error
    exact untouched_of_error run' error

end Ks959.Tx
