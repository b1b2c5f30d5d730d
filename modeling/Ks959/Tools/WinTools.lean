import Ks959.Tools.WinRead

/-!
# What the WinUSB tools do with an open device

`ks959_control_transfer` and the second kind of read (`ks959-init-sequence.c`), and what a tool does
around them: `withDevice` opens the dongle, runs the body of `main` and closes the dongle.

What a run has done on the bus is told by its control transfers (`transfersOf`), the packets that
WinUSB has handed out (`packetsOf`) and the number of reads (`readsOf`). An open and a close do
nothing on the bus (`Bare`), so `withDevice_ensures` reduces what a tool does to its body.
-/

namespace Ks959.Tools
open Dialogue Device

/-- The transfer that `ks959_control_transfer` asks for. The direction bit of the request type tells
    which buffer it takes, and the buffer gives the packet its length. -/
def requested (winusb : Nat) (requestType request : UInt8) (value index : UInt16)
    (outBuffer : Option (List UInt8)) (outLength : UInt16) (inBuffer : Option (List UInt8))
    (inBufferLength : UInt16) : ControlTransfer (List UInt8) :=
  if requestType &&& 0x80 ≠ 0 then
    ⟨winusb, ⟨requestType, request, value, index, inBufferLength⟩, inBuffer,
      inBufferLength.toUInt32⟩
  else
    ⟨winusb, ⟨requestType, request, value, index, outLength⟩, outBuffer, outLength.toUInt32⟩

/-- `ks959_control_transfer`, with what `*bytesTransferred` is before and afterwards. -/
def controlTransfer (dev : Option WinDevice) (requestType request : UInt8) (value index : UInt16)
    (outBuffer : Option (List UInt8)) (outLength : UInt16) (inBuffer : Option (List UInt8))
    (inBufferLength : UInt16) (bytesTransferred : UInt32) : WinTool (Bool × UInt32) :=
  match dev.bind fun dev => dev.winUsbHandle with
  | none => halt (false, bytesTransferred)
  | some winusb => do
    match ← win (.controlTransfer (requested winusb requestType request value index outBuffer
      outLength inBuffer inBufferLength)) with
    | .failed _ => return (false, bytesTransferred)
    | .done transferred => return (true, transferred)

/-- `ks959_read_once` of `ks959-init-sequence.c`, which waits in `WinUsb_ReadPipe` itself. -/
def readOnceNow (c : ReadLoop) : WinTool ReadResult :=
  if usable c.dev then do
    match ← win (.setTimeout c.winusb c.pipe) with
    | false => return (false, [])
    | true =>
      match ← win (.readPipeNow c.winusb c.pipe c.bufferSize c.readSize) with
      | .packet bytes => return (true, [bytes])
      | .expected => return (true, [])
      | .error => return (false, [])
  else halt (false, [])

/-- `main` around what it does with the device: `absent` is returned when there is none. -/
def withDevice {R : Type} (absent : R) (body : WinDevice → WinTool R) : WinTool R := do
  match ← openDevice (some .closed) with
  | (true, some dev) =>
    let r ← body dev
    let _ ← closeDevice (some dev)
    return r
  | _ => return absent

/-- `main` of `ks959-monitor.c`. -/
def monitorMain : WinTool (Nat × List (List UInt8)) :=
  withDevice (1, []) fun dev => do
    let c := monitorReads (some dev.toPipeDevice)
    let read ← readLoop c c.iterations []
    return (if read.1 then 0 else 2, read.2)

/-- A control transfer with its outcome. -/
abbrev Transferred := ControlTransfer (List UInt8) × TransferOutcome

/-- The control transfer that a call is, if it is one. -/
def transfer? : WinExchange → Option Transferred
  | ⟨.controlTransfer t, (outcome : TransferOutcome)⟩ => some (t, outcome)
  | _ => none

/-- The packet that a read has brought. -/
def PacketRead.bytes? : PacketRead → Option (List UInt8)
  | .packet bytes => some bytes
  | .expected | .error => none

/-- The packet that a call hands out, if it does. -/
def packet? : WinExchange → Option (List UInt8)
  | ⟨.overlappedResult _, (read : PacketRead)⟩ => read.bytes?
  | ⟨.readPipeNow _ _ _ _, (read : PacketRead)⟩ => read.bytes?
  | _ => none

/-- The call submits a read. -/
def isRead : WinExchange → Bool
  | ⟨.readPipe _ _ _ _, _⟩ => true
  | ⟨.readPipeNow _ _ _ _, _⟩ => true
  | _ => false

/-- The control transfers of a run, in order. -/
def transfersOf (t : List WinExchange) : List Transferred := t.filterMap transfer?

/-- The packets that WinUSB has handed out, in order. -/
def packetsOf (t : List WinExchange) : List (List UInt8) := t.filterMap packet?

/-- The number of reads that have been submitted. -/
def readsOf (t : List WinExchange) : Nat := t.countP isRead

/-- What a run has done on the bus. -/
structure OnBus (t : List WinExchange) (transfers : List Transferred)
    (packets : List (List UInt8)) (reads : Nat) : Prop where
  transfers : transfersOf t = transfers
  packets : packetsOf t = packets
  reads : readsOf t = reads

variable {R S : Type} {t t' : List WinExchange} {ts ts' : List Transferred}
  {ps ps' : List (List UInt8)} {n n' : Nat}

/-- Without calls nothing is done on the bus. -/
lemma onBus_nil : OnBus [] [] [] 0 := ⟨rfl, rfl, rfl⟩

/-- Two runs in a row do on the bus what the first does, then what the second does. -/
lemma OnBus.append (bus : OnBus t ts ps n) (bus' : OnBus t' ts' ps' n') :
    OnBus (t ++ t') (ts ++ ts') (ps ++ ps') (n + n') where
  transfers := by rw [transfersOf, List.filterMap_append, ← bus.transfers, ← bus'.transfers]; rfl
  packets := by rw [packetsOf, List.filterMap_append, ← bus.packets, ← bus'.packets]; rfl
  reads := by rw [readsOf, List.countP_append, ← bus.reads, ← bus'.reads]; rfl

/-- A call that does nothing on the bus. -/
structure Idle (x : WinExchange) : Prop where
  transfer : transfer? x = none
  packet : packet? x = none
  read : isRead x = false

/-- A call that does nothing on the bus adds nothing. -/
lemma OnBus.idle {x : WinExchange} (bus : OnBus t ts ps n) (idle : Idle x) :
    OnBus (x :: t) ts ps n where
  transfers := (List.filterMap_cons_none idle.transfer).trans bus.transfers
  packets := (List.filterMap_cons_none idle.packet).trans bus.packets
  reads := (List.countP_cons_of_neg (by rw [idle.read]; exact Bool.false_ne_true)).trans bus.reads

/-- A dialogue that does nothing on the bus. -/
def Bare (p : WinTool R) : Prop := Ensures p fun t _ => OnBus t [] [] 0

/-- A return does nothing on the bus. -/
lemma Bare.halt (r : R) : Bare (Dialogue.halt r : WinTool R) := ensures_halt onBus_nil

/-- A call that does nothing on the bus may stand in front of a bare dialogue. -/
lemma Bare.call {q : WinCall} {k : q.Answer → WinTool R} (here : ∀ a, Idle ⟨q, a⟩)
    (next : ∀ a, Bare (k a)) : Bare (win q >>= k) :=
  ensures_ask fun a => (next a).mono fun _ _ bus => bus.idle (here a)

/-- Two bare dialogues in a row do nothing on the bus. -/
lemma Bare.bind {p : WinTool R} {f : R → WinTool S} (first : Bare p) (second : ∀ r, Bare (f r)) :
    Bare (p >>= f) := by
  refine Ensures.bind first fun before r bus => (second r).mono fun after _ bus' => ?_
  exact bus.append bus'

/-- A close does nothing on the bus. -/
lemma closeDevice_bare (dev : WinDevice) : Bare (closeDevice (some dev)) := by
  obtain ⟨⟨winusb, pipe, size⟩, file⟩ := dev
  cases winusb with
  | none =>
    cases file with
    | none => exact .halt _
    | some file => exact .call (fun _ => ⟨rfl, rfl, rfl⟩) fun _ => .halt _
  | some winusb =>
    refine .call (fun _ => ⟨rfl, rfl, rfl⟩) fun _ => ?_
    cases file with
    | none => exact .halt _
    | some file => exact .call (fun _ => ⟨rfl, rfl, rfl⟩) fun _ => .halt _

/-- An open that fails does nothing on the bus as it gives up. -/
lemma failOpen_bare (dev : WinDevice) : Bare (failOpen dev) :=
  .bind (closeDevice_bare dev) fun _ => .halt _

/-- The questions about the pipes are no transfers. -/
lemma queryPipes_bare (winusb : Nat) (dev : WinDevice) (is : List Nat) :
    Bare (queryPipes winusb dev is) := by
  induction is generalizing dev with
  | nil => exact .halt _
  | cons i is ih =>
    refine .call (fun _ => ⟨rfl, rfl, rfl⟩) fun answered => ?_
    cases answered with
    | none => exact .halt none
    | some p => exact ih _

/-- An open does nothing on the bus. -/
lemma openDevice_bare (old : WinDevice) : Bare (openDevice (some old)) := by
  refine .call (fun _ => ⟨rfl, rfl, rfl⟩) fun search => ?_
  cases search.result.found with
  | false => exact .halt _
  | true =>
    refine .call (fun _ => ⟨rfl, rfl, rfl⟩) fun created => ?_
    refine .call (fun _ => ⟨rfl, rfl, rfl⟩) fun _ => ?_
    cases created with
    | none => exact failOpen_bare _
    | some file =>
      refine .call (fun _ => ⟨rfl, rfl, rfl⟩) fun initialized => ?_
      cases initialized with
      | none => exact failOpen_bare _
      | some winusb =>
        refine .call (fun _ => ⟨rfl, rfl, rfl⟩) fun settings => ?_
        cases settings with
        | none => exact failOpen_bare _
        | some numEndpoints =>
          refine .bind (queryPipes_bare _ _ _) fun dev => ?_
          cases dev with
          | none => exact failOpen_bare _
          | some dev =>
            change Bare (if dev.interruptInPipe = 0 then failOpen dev else _)
            split
            · exact failOpen_bare dev
            · exact .halt _

/-- A device that an open hands out. -/
def listening (file winusb : Nat) (size : UInt16) : WinDevice :=
  ⟨⟨some winusb, expectedPipeId, size⟩, some file⟩

/-- What a tool does on the bus is what it does with the device that it has opened. -/
lemma withDevice_ensures {absent : R} {body : WinDevice → WinTool R}
    {post : Nat → List WinExchange → R → Prop}
    (ensures : ∀ file winusb size, Ensures (body (listening file winusb size)) (post winusb)) :
    Ensures (withDevice absent body) fun t r => (r = absent ∧ OnBus t [] [] 0) ∨
      ∃ t₁ t₂ t₃ winusb, t = t₁ ++ (t₂ ++ t₃) ∧ OnBus t₁ [] [] 0 ∧ OnBus t₃ [] [] 0 ∧
        post winusb t₂ r := by
  have opens : Ensures (openDevice (some .closed)) fun t r => OnBus t [] [] 0 ∧
      ∃ s, WinOpened r s := by
    intro t r run
    obtain ⟨s, _, opened⟩ := openDevice_follows .closed t r run
    exact ⟨openDevice_bare .closed t r run, s, opened⟩
  refine Ensures.bind opens fun t₁ opened before => ?_
  obtain ⟨before, s, opened⟩ := before
  cases opened with
  | failed =>
    refine ensures_halt (.inl ⟨rfl, ?_⟩)
    rwa [List.append_nil]
  | opened file winusb size =>
    refine Ensures.bind (ensures file winusb size) fun t₂ r done => ?_
    refine Ensures.bind (closeDevice_bare _) fun t₃ _ after => ensures_halt (.inr ?_)
    exact ⟨t₁, t₂, t₃, winusb, by rw [List.append_nil], before, after, done⟩

/-- A body that does the same on the bus whatever is answered. -/
lemma OnBus.between {t₁ t₂ t₃ : List WinExchange} (before : OnBus t₁ [] [] 0)
    (bus : OnBus t₂ ts ps n) (after : OnBus t₃ [] [] 0) : OnBus (t₁ ++ (t₂ ++ t₃)) ts ps n := by
  have all := before.append (bus.append after)
  rwa [List.nil_append, List.nil_append, List.append_nil, List.append_nil, Nat.zero_add,
    Nat.add_zero] at all

/-- The dialogue keeps to the session of an open device. -/
def InWinSession (p : WinTool R) (file winusb : Nat) : Prop :=
  Follows winStep p ⟨false, some file, some winusb, false⟩
    fun _ s => s = ⟨false, some file, some winusb, false⟩

/-- A return stays inside the session. -/
lemma InWinSession.halt (r : R) (file winusb : Nat) :
    InWinSession (Dialogue.halt r) file winusb :=
  follows_halt rfl

/-- Two dialogues in a row stay inside the session. -/
lemma InWinSession.bind {p : WinTool R} {f : R → WinTool S} {file winusb : Nat}
    (first : InWinSession p file winusb) (second : ∀ r, InWinSession (f r) file winusb) :
    InWinSession (p >>= f) file winusb := by
  refine Follows.bind first fun r s same => ?_
  rw [same]
  exact second r

/-- A loop stays inside the session when each turn does. -/
lemma InWinSession.forEach {σ α : Type} {f : σ → α → WinTool σ} {xs : List α} {file winusb : Nat}
    (turn : ∀ acc, ∀ x ∈ xs, InWinSession (f acc x) file winusb) (acc : σ) :
    InWinSession (Dialogue.forEach f acc xs) file winusb := by
  refine Follows.forEach (fun _ (s : WinSession) => s = ⟨false, some file, some winusb, false⟩) rfl
    fun acc s x mem same => ?_
  rw [same]
  exact turn acc x mem

/-- A tool that keeps to its session holds nothing in the end. -/
lemma withDevice_follows {absent : R} {body : WinDevice → WinTool R}
    (inSession : ∀ file winusb size, InWinSession (body (listening file winusb size)) file winusb) :
    Follows winStep (withDevice absent body) .idle fun _ s => s = .idle := by
  refine (openDevice_follows .closed).bind fun opened s ended => ?_
  cases ended with
  | failed => exact follows_halt rfl
  | opened file winusb size =>
    refine Follows.bind (inSession file winusb size) fun r s same => ?_
    rw [same]
    refine (closeDevice_follows (listening file winusb size) false).bind fun d s ended => ?_
    exact follows_halt ended.2

/-- The buffer of a transfer holds what is announced. -/
lemma controlTransfer_inSession {file winusb : Nat} {size : UInt16} {requestType request : UInt8}
    {value index : UInt16} {outBuffer inBuffer : Option (List UInt8)}
    {outLength inBufferLength : UInt16} {old : UInt32}
    (out : requestType &&& 0x80 = 0 → outLength.toNat ≤ (outBuffer.getD []).length)
    (inn : requestType &&& 0x80 ≠ 0 → inBufferLength.toNat ≤ (inBuffer.getD []).length) :
    InWinSession (controlTransfer (some (listening file winusb size)) requestType request value index
      outBuffer outLength inBuffer inBufferLength old) file winusb := by
  have held : (requested winusb requestType request value index outBuffer outLength inBuffer
      inBufferLength).handle = winusb ∧ Held (requested winusb requestType request value index
        outBuffer outLength inBuffer inBufferLength) := by
    rw [requested]
    split_ifs with direction
    · exact ⟨rfl, (UInt16.toNat_toUInt32 _).symm, (UInt16.toNat_toUInt32 _).trans_le (inn direction)⟩
    · exact ⟨rfl, (UInt16.toNat_toUInt32 _).symm,
        (UInt16.toNat_toUInt32 _).trans_le (out (not_not.mp direction))⟩
  refine follows_win fun outcome => ⟨_, inOrder_pos ⟨congrArg some held.1.symm, held.2⟩ _, ?_⟩
  cases outcome with
  | done n => exact follows_halt rfl
  | failed err => exact follows_halt rfl

/-- At most `limit` reads are submitted, and what WinUSB hands out is reported behind `dumped`. -/
def Reports (p : WinTool ReadResult) (limit : Nat) (dumped : List (List UInt8)) : Prop :=
  Ensures p fun t r => ∃ packets reads, OnBus t [] packets reads ∧ reads ≤ limit ∧
    r.2 = dumped ++ packets

/-- A call, with what it does on the bus. -/
lemma Reports.ask {q : WinCall} {k : q.Answer → WinTool ReadResult} {limit : Nat}
    {dumped : List (List UInt8)} (next : ∀ a, ∃ packets n limit', OnBus [⟨q, a⟩] [] packets n ∧
      n + limit' ≤ limit ∧ Reports (k a) limit' (dumped ++ packets)) :
    Reports (win q >>= k) limit dumped := by
  refine ensures_ask fun a => ?_
  obtain ⟨packets, n, limit', bus, room, reports⟩ := next a
  refine Ensures.mono reports fun t r done => ?_
  obtain ⟨packets', n', bus', few, same⟩ := done
  refine ⟨packets ++ packets', n + n', bus.append bus', ?_, ?_⟩
  · exact (Nat.add_le_add_left few n).trans room
  · rw [same, List.append_assoc]

/-- A call that does nothing on the bus. -/
lemma Reports.call {q : WinCall} {k : q.Answer → WinTool ReadResult} {limit : Nat}
    {dumped : List (List UInt8)} (here : ∀ a, Idle ⟨q, a⟩) (next : ∀ a, Reports (k a) limit dumped) :
    Reports (win q >>= k) limit dumped := by
  refine .ask fun a => ⟨[], 0, limit, onBus_nil.idle (here a), (Nat.zero_add _).le, ?_⟩
  rw [List.append_nil]
  exact next a

/-- A return reports what has been dumped so far. -/
lemma Reports.halt (ok : Bool) (limit : Nat) (dumped : List (List UInt8)) :
    Reports (Dialogue.halt (ok, dumped)) limit dumped :=
  ensures_halt ⟨[], 0, onBus_nil, Nat.zero_le _, (List.append_nil _).symm⟩

/-- The end of a read reports its packets. -/
lemma closeRead_reports (ok : Bool) (packets : List (List UInt8)) (limit : Nat) :
    Reports (closeRead (ok, packets)) limit packets :=
  .call (fun _ => ⟨rfl, rfl, rfl⟩) fun _ => .halt ok limit packets

/-- Fetching a result reports the packet that WinUSB hands out. -/
lemma fetchRead_reports (c : ReadLoop) (immediate : Bool) :
    Reports (fetchRead c immediate) 0 [] := by
  refine .ask fun read => ?_
  cases read with
  | packet bytes =>
    exact ⟨[bytes], 0, 0, ⟨rfl, rfl, rfl⟩, le_rfl, closeRead_reports true [bytes] 0⟩
  | expected => exact ⟨[], 0, 0, ⟨rfl, rfl, rfl⟩, le_rfl, closeRead_reports _ [] 0⟩
  | error => exact ⟨[], 0, 0, ⟨rfl, rfl, rfl⟩, le_rfl, closeRead_reports false [] 0⟩

/-- Waiting for a result reports the packet that WinUSB hands out. -/
lemma awaitRead_reports (c : ReadLoop) : Reports (awaitRead c) 0 [] := by
  refine .call (fun _ => ⟨rfl, rfl, rfl⟩) fun wait => ?_
  cases wait with
  | signalled => exact fetchRead_reports c false
  | timeout => exact .call (fun _ => ⟨rfl, rfl, rfl⟩) fun _ => closeRead_reports true [] 0
  | failed => exact closeRead_reports false [] 0

/-- A call submits one read at most. -/
lemma readOnce_reports (c : ReadLoop) : Reports (readOnce c) 1 [] := by
  rw [readOnce]
  split
  · refine .call (fun _ => ⟨rfl, rfl, rfl⟩) fun created => ?_
    cases created with
    | false => exact .halt false 1 []
    | true =>
      refine .ask fun answer => ⟨[], 1, 0, ⟨rfl, rfl, rfl⟩, le_rfl, ?_⟩
      cases answer with
      | done => exact fetchRead_reports c true
      | pending => exact awaitRead_reports c
      | error => exact closeRead_reports false [] 0
  · exact .halt false 1 []

/-- A loop reports what its reads report, one after another. -/
lemma listen_reports {once : WinTool ReadResult} (reports : Reports once 1 []) (n : Nat)
    (dumped : List (List UInt8)) : Reports (listen once n dumped) n dumped := by
  induction n generalizing dumped with
  | zero => exact .halt true 0 dumped
  | succ n ih =>
    refine Ensures.bind reports fun t r done => ?_
    obtain ⟨packets, reads, bus, few, same⟩ := done
    obtain ⟨ok, dumped'⟩ := r
    cases same
    cases ok with
    | false =>
      refine ensures_halt ⟨packets, reads, ?_, few.trans (Nat.succ_le_succ (Nat.zero_le n)), rfl⟩
      rwa [List.append_nil]
    | true =>
      refine (ih (dumped ++ packets)).mono fun t' r done => ?_
      obtain ⟨packets', reads', bus', few', same⟩ := done
      refine ⟨packets ++ packets', reads + reads', bus.append bus', ?_, ?_⟩
      · exact (Nat.add_le_add few few').trans_eq (Nat.add_comm 1 n)
      · rw [same, List.append_assoc]

/-- A read of `ks959-control-test.c` fits its buffer, whatever packets the endpoint has. -/
lemma controlTestReads_fits (dev : Option PipeDevice) :
    (controlTestReads dev).readSize ≤ (controlTestReads dev).bufferSize := by
  cases dev with
  | none => exact (by decide : 8 ≤ maxBuffer)
  | some dev =>
    change (if dev.maxPacketSize.toNat = 0 ∨ maxBuffer < dev.maxPacketSize.toNat then 8
      else dev.maxPacketSize.toNat) ≤ maxBuffer
    split_ifs with unfit
    · decide
    · exact not_lt.mp (not_or.mp unfit).2

/-- `main` of the monitor ends with nothing held. -/
lemma monitorMain_follows : Follows winStep monitorMain .idle fun _ s => s = .idle := by
  refine withDevice_follows fun file winusb size => ?_
  refine .bind (listen_follows (readOnce_follows ?_ rfl rfl) 50 []) fun read =>
    .halt _ file winusb
  exact le_rfl

/-- A read of the second kind leaves the session as it is. -/
lemma readOnceNow_follows {c : ReadLoop} {w : WinSession} (fits : c.readSize ≤ c.bufferSize)
    (handle : w.winusb = some c.winusb) :
    Follows winStep (readOnceNow c) w fun _ w' => w' = w := by
  rw [readOnceNow]
  split
  · refine follows_win fun limited => ⟨w, inOrder_pos handle w, ?_⟩
    cases limited with
    | false => exact follows_halt rfl
    | true =>
      refine follows_win fun read => ⟨w, inOrder_pos ⟨handle, fits⟩ w, ?_⟩
      cases read with
      | packet bytes => exact follows_halt rfl
      | expected => exact follows_halt rfl
      | error => exact follows_halt rfl
  · exact follows_halt rfl

end Ks959.Tools
