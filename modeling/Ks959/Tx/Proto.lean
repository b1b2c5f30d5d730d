import Ks959.Lib.Memory
import Ks959.Tx.Padding

/-!
# The library encoder (`ks959_proto.c`)

`protoObfuscateTxFragment` over object memory, as for the decoder: pointer arguments are `Option`s,
and the values behind them are returned. The fragment is masked with one byte that depends on its
length alone and padded with zeros; `encode` is that on lists, and `TxCall.run_eq` says that a
call on real buffers writes `encode` of its fragment or, when the padded length does not fit,
nothing at all.
-/

namespace Ks959.Tx
open CMemory

/-- `lookup_string`, its terminator included. -/
def lookupString : List UInt8 :=
  ['w', 'a', 'n', 'g', 's', 'h', 'u', 'o', 'f', 'e', 'i', '1', '9', '7', '1', '0', '\x00'].map
    fun c => UInt8.ofNat c.toNat

/-- What a call returns and leaves behind its pointers. -/
structure TxReturn (ι : Type) where
  status : Status
  outLen : Option UInt64
  mem : Mem ι UInt8

section
variable {ι : Type} [DecidableEq ι]

/-- The masking loop of `ks959_proto_obfuscate_tx_fragment`, `left` iterations before its end. -/
def maskLoop (clearBuf outBuf : ι) (xorMask : UInt8) :
    (left i : Nat) → Mem ι UInt8 → Option (Mem ι UInt8)
  | 0, _, mem => some mem
  | left + 1, i, mem => do
    let byte ← mem.load clearBuf i
    let mem ← mem.store outBuf i (byte ^^^ xorMask)
    maskLoop clearBuf outBuf xorMask left (i + 1) mem

/-- `ks959_proto_obfuscate_tx_fragment`. -/
def protoObfuscateTxFragment (mem : Mem ι UInt8) (clearBuf : Option ι) (clearLen : UInt64)
    (outBuf : Option ι) (outBufSize : UInt64) (outLen : Option UInt64) : Option (TxReturn ι) :=
  match clearBuf, outBuf, outLen with
  | some src, some dst, some _ => do
    let paddedLen := protoGetTxPaddedLength clearLen outBufSize
    if paddedLen = 0 then
      some ⟨.errBufferTooSmall, outLen, mem⟩
    else do
      -- `memset` over the padded length, the clear bytes are masked over it
      let mem ← mem.write dst (List.replicate paddedLen.toNat 0)
      let key ← lookupString[((clearLen &&& 0x0F) ^^^ 0x06).toNat]?
      let xorMask := key ^^^ 0x55
      let mem ← maskLoop src dst xorMask clearLen.toNat 0 mem
      some ⟨.ok, some paddedLen, mem⟩
  | _, _, _ => some ⟨.errInvalidArg, outLen, mem⟩

end

/-- The mask for a fragment of `n` bytes: `lookup[(n & 15) ^ 6] ^ 0x55`. -/
def mask (n : Nat) : UInt8 := lookupString.getD (n % 16 ^^^ 6) 0 ^^^ 0x55

/-- The payload for a fragment: the masked bytes and the zeros behind them. -/
def encode (fragment : List UInt8) : List UInt8 :=
  fragment.map (· ^^^ mask fragment.length)
    ++ List.replicate (paddedLength fragment.length - fragment.length) 0

/-- The index stays inside the lookup string. -/
lemma lookup_index_lt (n : Nat) : n % 16 ^^^ 6 < 16 :=
  Nat.xor_lt_two_pow (n := 4) (Nat.mod_lt n (by decide)) (by decide)

/-- The index of the C expression, as a number. -/
lemma toNat_index (clearLen : UInt64) :
    ((clearLen &&& 0x0F) ^^^ 0x06).toNat = clearLen.toNat % 16 ^^^ 6 := by
  rw [UInt64.toNat_xor, UInt64.toNat_and]
  exact congrArg (· ^^^ 6) (Nat.and_two_pow_sub_one_eq_mod clearLen.toNat 4)

/-- The index computed by the code stays within the sixteen characters of the key. -/
lemma lookup_eq (clearLen : UInt64) :
    lookupString[((clearLen &&& 0x0F) ^^^ 0x06).toNat]?
      = some (lookupString.getD (clearLen.toNat % 16 ^^^ 6) 0) := by
  have lt : clearLen.toNat % 16 ^^^ 6 < lookupString.length :=
    Nat.lt_trans (lookup_index_lt _) (by decide)
  rw [toNat_index, List.getElem?_eq_getElem lt, List.getD_eq_getElem _ _ lt]

/-- A packet has the padded length. -/
lemma length_encode (fragment : List UInt8) :
    (encode fragment).length = paddedLength fragment.length := by
  rw [encode, List.length_append, List.length_map, List.length_replicate, paddedLength]
  omega

variable {ι : Type} [DecidableEq ι]

/-- A turn of the masking loop. -/
lemma maskLoop_succ {m m' : Mem ι UInt8} {src dst : ι} {xorMask x : UInt8} {left i : Nat}
    (read : m.load src i = some x) (write : m.store dst i (x ^^^ xorMask) = some m') :
    maskLoop src dst xorMask (left + 1) i m = maskLoop src dst xorMask left (i + 1) m' := by
  simp [maskLoop, read, write]

/-- The loop in mid-run: `ys` is masked, the bytes `xs` are still to come, over zeros. -/
lemma maskLoop_splice {m : Mem ι UInt8} {src dst : ι} {xs ys zs : List UInt8} (xorMask : UInt8)
    (apart : src ≠ dst) (fits : (ys ++ xs ++ zs).length ≤ (m dst).length)
    (unread : m.Unread src ys.length xs) :
    maskLoop src dst xorMask xs.length ys.length
        (m.splice dst (ys ++ (List.replicate xs.length 0 ++ zs)))
      = some (m.splice dst (ys ++ (xs.map (· ^^^ xorMask) ++ zs))) := by
  induction xs generalizing ys with
  | nil => rfl
  | cons x xs ih =>
    have shift (x : UInt8) (xs : List UInt8) : ys ++ x :: xs = (ys ++ [x]) ++ xs := by simp
    have len (x : UInt8) : (ys ++ [x]).length = ys.length + 1 := by simp
    have read : (m.splice dst (ys ++ 0 :: (List.replicate xs.length 0 ++ zs))).load src ys.length
        = some x := by
      rw [Mem.load_splice fun e => absurd e apart, unread.load]
    have write : (m.splice dst (ys ++ 0 :: (List.replicate xs.length 0 ++ zs))).store dst ys.length
          (x ^^^ xorMask)
        = some (m.splice dst (ys ++ (x ^^^ xorMask) :: (List.replicate xs.length 0 ++ zs))) := by
      apply Mem.store_splice_inner
      simpa using fits
    have room : (ys ++ [x ^^^ xorMask] ++ xs ++ zs).length ≤ (m dst).length := by
      simpa using fits
    have next := ih room (by rw [len]; exact unread.tail)
    rw [len] at next
    simp only [List.append_assoc, List.singleton_append] at next
    rw [List.length_cons, List.replicate_succ, List.cons_append, maskLoop_succ read write]
    exact next

/-- The arguments of a call whose buffers are real: they hold as many bytes as the call says, are
    two different objects, and no object is larger than `SIZE_MAX / 2`. -/
structure TxCall (ι : Type) where
  mem : Mem ι UInt8
  clearBuf : ι
  clearLen : UInt64
  outBuf : ι
  outBufSize : UInt64
  outLen : UInt64
  clearBuf_holds : clearLen.toNat ≤ (mem clearBuf).length
  clearLen_real : clearLen.toNat ≤ (2 ^ 64 - 1) / 2
  outBuf_holds : outBufSize.toNat ≤ (mem outBuf).length
  apart : clearBuf ≠ outBuf

namespace TxCall

/-- The clear bytes the call is about. -/
def fragment (c : TxCall ι) : List UInt8 := (c.mem c.clearBuf).take c.clearLen.toNat

def run (c : TxCall ι) : Option (TxReturn ι) :=
  protoObfuscateTxFragment c.mem (some c.clearBuf) c.clearLen (some c.outBuf) c.outBufSize
    (some c.outLen)

/-- The fragment is not empty and its padded length fits. -/
def Accepted (c : TxCall ι) : Prop :=
  1 ≤ c.clearLen.toNat ∧ paddedLength c.clearLen.toNat ≤ c.outBufSize.toNat

variable {c : TxCall ι}

omit [DecidableEq ι] in
/-- The fragment has the length that is passed for it. -/
@[simp] lemma length_fragment : c.fragment.length = c.clearLen.toNat :=
  List.length_take_of_le c.clearBuf_holds

omit [DecidableEq ι] in
/-- The padded length of a call: that of the fragment where there is room for it, else `0`. -/
lemma toNat_paddedLen :
    (protoGetTxPaddedLength c.clearLen c.outBufSize).toNat
      = if 1 ≤ c.clearLen.toNat ∧ paddedLength c.clearLen.toNat ≤ c.outBufSize.toNat
          then paddedLength c.clearLen.toNat else 0 := by
  have real := c.clearLen_real
  exact ((paddedLength_exact_iff _ _).mpr (.inl (by omega))).1

/-- A call whose fragment is not accepted touches nothing. -/
lemma run_of_rejected (rejected : ¬ c.Accepted) :
    c.run = some ⟨.errBufferTooSmall, some c.outLen, c.mem⟩ := by
  have zero : protoGetTxPaddedLength c.clearLen c.outBufSize = 0 := by
    rw [← UInt64.toNat_inj, toNat_paddedLen]
    exact if_neg rejected
  simp [run, protoObfuscateTxFragment, zero]

/-- `memset` over the padded length. -/
lemma zeroed (accepted : c.Accepted) :
    c.mem.write c.outBuf (List.replicate (paddedLength c.clearLen.toNat) 0)
      = some (c.mem.splice c.outBuf (List.replicate (paddedLength c.clearLen.toNat) 0)) := by
  apply Mem.write_eq
  rw [List.length_replicate]
  exact Nat.le_trans accepted.2 c.outBuf_holds

/-- The masking loop over the zeroed buffer. -/
lemma masked (accepted : c.Accepted) :
    maskLoop c.clearBuf c.outBuf (mask c.clearLen.toNat) c.clearLen.toNat 0
        (c.mem.splice c.outBuf (List.replicate (paddedLength c.clearLen.toNat) 0))
      = some (c.mem.splice c.outBuf (encode c.fragment)) := by
  have zeros : List.replicate (paddedLength c.clearLen.toNat) (0 : UInt8)
      = [] ++ (List.replicate c.fragment.length 0
          ++ List.replicate (paddedLength c.clearLen.toNat - c.clearLen.toNat) 0) := by
    rw [List.nil_append, List.replicate_append_replicate, length_fragment, paddedLength]
    congr 1
    omega
  have room : ([] ++ c.fragment ++ List.replicate (paddedLength c.clearLen.toNat
      - c.clearLen.toNat) (0 : UInt8)).length ≤ (c.mem c.outBuf).length := by
    refine Nat.le_trans ?_ (Nat.le_trans accepted.2 c.outBuf_holds)
    rw [List.nil_append, List.length_append, List.length_replicate, length_fragment, paddedLength]
    omega
  have loop := maskLoop_splice (mask c.clearLen.toNat) c.apart room
    (Mem.unread_take c.clearBuf_holds)
  rw [← zeros, length_fragment] at loop
  rw [encode, length_fragment]
  exact loop

/-- A call whose fragment is accepted writes its payload to the start of the output buffer. -/
lemma run_of_accepted (accepted : c.Accepted) :
    ∃ paddedLen, paddedLen.toNat = paddedLength c.clearLen.toNat ∧
      c.run = some ⟨.ok, some paddedLen, c.mem.splice c.outBuf (encode c.fragment)⟩ := by
  have padded : (protoGetTxPaddedLength c.clearLen c.outBufSize).toNat
      = paddedLength c.clearLen.toNat := by
    rw [toNat_paddedLen]
    exact if_pos accepted
  have ne : protoGetTxPaddedLength c.clearLen c.outBufSize ≠ 0 := by
    intro zero
    rw [zero, paddedLength] at padded
    exact absurd padded (by simp)
  refine ⟨_, padded, ?_⟩
  rw [run, protoObfuscateTxFragment]
  simp only [if_neg ne, padded, zeroed accepted, lookup_eq, Option.bind_eq_bind, Option.bind_some]
  rw [← mask, masked accepted]
  rfl

/-- A call succeeds exactly when its fragment is accepted. -/
lemma run_ok_iff {r : TxReturn ι} (e : c.run = some r) : r.status = .ok ↔ c.Accepted := by
  constructor
  · intro ok
    by_contra rejected
    rw [run_of_rejected rejected, Option.some.injEq] at e
    subst e
    cases ok
  · intro accepted
    obtain ⟨_, _, run⟩ := run_of_accepted accepted
    rw [run, Option.some.injEq] at e
    subst e
    rfl

end TxCall
end Ks959.Tx
