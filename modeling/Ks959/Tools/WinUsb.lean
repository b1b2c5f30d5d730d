import Ks959.Device.Ctrl
import Ks959.Lib.Dialogue
import Ks959.Tools.MonitorDiscovery
import Ks959.Tools.ReadOnce

/-!
# The tools over WinUSB: opening and closing (`ks959-monitor.c` and others)

`ks959-monitor.c`, `ks959-control-test.c` and `ks959-init-sequence.c` carry the same `ks959_open`
and `ks959_close`. They are dialogues with the system (`WinCall`); a search for the dongle is one
question, whose answer holds what `get_ks959_device_path` has made of it.

`winStep` is the life of a WinUSB session: path, file handle, interface handle, event, each held
once and used only while it is held (`openDevice_follows`). `openDevice_opens` says when an open
succeeds and what the device is then: the expected pipe has to be among those of the interface, and
no query may fail.
-/

namespace Ks959.Tools
open Dialogue Device

/-- `USBD_PIPE_TYPE`. -/
inductive PipeType where
  | control
  | isochronous
  | bulk
  | interrupt
  | unknown
deriving DecidableEq, Repr

/-- `WINUSB_PIPE_INFORMATION`, less the interval, which is only printed. -/
structure PipeInformation where
  pipeType : PipeType
  pipeId : UInt8
  maximumPacketSize : UInt16
deriving DecidableEq, Repr

/-- A search: what the system answers on the way, and what comes out. -/
structure DongleSearch where
  env : Env
  result : FoundPath
  ran : getKs959DevicePath env (some none) = some result

/-- What `WaitForSingleObject` answers. -/
inductive Wait where
  | signalled
  | timeout
  | failed
deriving DecidableEq, Repr

/-- What `WinUsb_ReadPipe` answers to an overlapped read. -/
inductive Submitted where
  | done
  | pending
  | error
deriving DecidableEq, Repr

/-- What a read leaves behind: a packet, or an error, which may be the one that is expected
    (`ERROR_OPERATION_ABORTED`, `ERROR_SEM_TIMEOUT`). -/
inductive PacketRead where
  | packet (bytes : List UInt8)
  | expected
  | error
deriving DecidableEq, Repr

/-- A call of the WinUSB tools. The buffer of a transfer is given by its cells, that of a read by
    its size. -/
inductive WinCall where
  | search
  | createFile (path : Option WPath)
  | freePath
  | winUsbInitialize (file : Nat)
  | querySettings (winusb : Nat)
  | queryPipe (winusb : Nat) (index : UInt8)
  | freeInterface (winusb : Nat)
  | closeFile (file : Nat)
  | controlTransfer (t : ControlTransfer (List UInt8))
  | createEvent
  | readPipe (winusb : Nat) (pipe : UInt8) (bufferSize size : Nat)
  | waitEvent
  | abortPipe (winusb : Nat) (pipe : UInt8)
  | overlappedResult (winusb : Nat)
  | closeEvent
  | setTimeout (winusb : Nat) (pipe : UInt8)
  | readPipeNow (winusb : Nat) (pipe : UInt8) (bufferSize size : Nat)

/-- What is answered. -/
abbrev WinCall.Answer : WinCall → Type
  | .search => DongleSearch
  | .createFile _ | .winUsbInitialize _ => Option Nat
  | .querySettings _ => Option UInt8
  | .queryPipe _ _ => Option PipeInformation
  | .controlTransfer _ => TransferOutcome
  | .createEvent | .setTimeout _ _ => Bool
  | .readPipe _ _ _ _ => Submitted
  | .waitEvent => Wait
  | .overlappedResult _ | .readPipeNow _ _ _ _ => PacketRead
  | .freePath | .freeInterface _ | .closeFile _ | .abortPipe _ _ | .closeEvent => Unit

/-- A WinUSB tool that returns an `R`. -/
abbrev WinTool (R : Type) := Dialogue WinCall.Answer R

/-- A call with its answer. -/
abbrev WinExchange := Σ q : WinCall, q.Answer

/-- Make a call. -/
def win (q : WinCall) : WinTool q.Answer := question q

/-- `Ks959Device`. -/
structure WinDevice extends PipeDevice where
  deviceHandle : Option Nat

/-- A device with nothing in it. -/
def WinDevice.closed : WinDevice := ⟨⟨none, 0, 0⟩, none⟩

/-- `ks959_close`. -/
def closeDevice (dev : Option WinDevice) : WinTool (Option WinDevice) :=
  match dev with
  | none => halt none
  | some dev => do
    match dev.winUsbHandle with
    | none => halt ()
    | some winusb => win (.freeInterface winusb)
    match dev.deviceHandle with
    | none => halt ()
    | some file => win (.closeFile file)
    return some .closed

/-- The label `cleanup` of `ks959_open` after a failure. -/
def failOpen (dev : WinDevice) : WinTool (Bool × Option WinDevice) := do
  let dev ← closeDevice (some dev)
  return (false, dev)

/-- `KS959_EXPECTED_PIPE_ID`. -/
def expectedPipeId : UInt8 := 0x81

/-- The pipe is the one that the tools listen on. -/
def PipeInformation.Expected (pipe : PipeInformation) : Prop :=
  pipe.pipeId = expectedPipeId ∧ pipe.pipeType = .interrupt

instance (pipe : PipeInformation) : Decidable pipe.Expected := inferInstanceAs (Decidable (_ ∧ _))

/-- The device after it has looked at a pipe. -/
def WinDevice.listen (dev : WinDevice) (pipeInfo : PipeInformation) : WinDevice :=
  if pipeInfo.Expected then
    { dev with interruptInPipe := pipeInfo.pipeId, maxPacketSize := pipeInfo.maximumPacketSize }
  else dev

/-- The loop of `ks959_open` over the pipes; `none` when a query fails. -/
def queryPipes (winusb : Nat) (dev : WinDevice) : List Nat → WinTool (Option WinDevice)
  | [] => halt (some dev)
  | i :: is => do
    match ← win (.queryPipe winusb (UInt8.ofNat i)) with
    | none => return none
    | some pipeInfo => queryPipes winusb (dev.listen pipeInfo) is

/-- `ks959_open`, which returns the device with the result. -/
def openDevice (dev : Option WinDevice) : WinTool (Bool × Option WinDevice) :=
  match dev with
  | none => halt (false, none)
  | some _ => do
    let search ← win .search
    if search.result.found = false then
      return (false, some .closed)
    else
      let created ← win (.createFile search.result.outDevicePath.join)
      win .freePath
      match created with
      | none => failOpen .closed
      | some file =>
        let dev := { WinDevice.closed with deviceHandle := some file }
        match ← win (.winUsbInitialize file) with
        | none => failOpen dev
        | some winusb =>
          let dev := { dev with winUsbHandle := some winusb }
          match ← win (.querySettings winusb) with
          | none => failOpen dev
          | some numEndpoints =>
            match ← queryPipes winusb dev (List.range numEndpoints.toNat) with
            | none => failOpen dev
            | some dev => if dev.interruptInPipe = 0 then failOpen dev else return (true, some dev)

/-- What a session holds. -/
structure WinSession where
  path : Bool
  file : Option Nat
  winusb : Option Nat
  event : Bool
deriving DecidableEq, Repr

/-- Nothing is held. -/
def WinSession.idle : WinSession := ⟨false, none, none, false⟩

/-- The state after a call that is in order. -/
def inOrder (ok : Prop) [Decidable ok] (s : WinSession) : Option WinSession :=
  if ok then some s else none

/-- A call that is in order is let through. -/
lemma inOrder_pos {ok : Prop} [Decidable ok] (holds : ok) (s : WinSession) :
    inOrder ok s = some s :=
  if_pos holds

/-- The transfer has one length, and its buffer holds as many bytes. -/
def Held (t : ControlTransfer (List UInt8)) : Prop :=
  t.packet.length.toNat = t.bufferLength.toNat ∧
    t.bufferLength.toNat ≤ (t.buffer.getD []).length

instance (t : ControlTransfer (List UInt8)) : Decidable (Held t) :=
  inferInstanceAs (Decidable (_ ∧ _))

/-- The order of calls in a session. -/
def winStep (s : WinSession) : WinExchange → Option WinSession
  | ⟨.search, (search : DongleSearch)⟩ =>
    inOrder (s = .idle) { s with path := search.result.found }
  | ⟨.createFile _, (file : Option Nat)⟩ =>
    inOrder (s.path = true ∧ s.file = none) { s with file := file }
  | ⟨.freePath, _⟩ => inOrder (s.path = true) { s with path := false }
  | ⟨.winUsbInitialize file, (winusb : Option Nat)⟩ =>
    inOrder (s.file = some file ∧ s.winusb = none) { s with winusb := winusb }
  | ⟨.querySettings winusb, _⟩ => inOrder (s.winusb = some winusb) s
  | ⟨.queryPipe winusb _, _⟩ => inOrder (s.winusb = some winusb) s
  | ⟨.freeInterface winusb, _⟩ =>
    inOrder (s.winusb = some winusb ∧ s.event = false) { s with winusb := none }
  | ⟨.closeFile file, _⟩ => inOrder (s.file = some file ∧ s.winusb = none) { s with file := none }
  | ⟨.controlTransfer t, _⟩ => inOrder (s.winusb = some t.handle ∧ Held t) s
  | ⟨.createEvent, (ok : Bool)⟩ => inOrder (s.event = false) { s with event := ok }
  | ⟨.readPipe winusb _ bufferSize size, _⟩ =>
    inOrder (s.winusb = some winusb ∧ s.event = true ∧ size ≤ bufferSize) s
  | ⟨.waitEvent, _⟩ => inOrder (s.event = true) s
  | ⟨.abortPipe winusb _, _⟩ => inOrder (s.winusb = some winusb ∧ s.event = true) s
  | ⟨.overlappedResult winusb, _⟩ => inOrder (s.winusb = some winusb ∧ s.event = true) s
  | ⟨.closeEvent, _⟩ => inOrder (s.event = true) { s with event := false }
  | ⟨.setTimeout winusb _, _⟩ => inOrder (s.winusb = some winusb) s
  | ⟨.readPipeNow winusb _ bufferSize size, _⟩ =>
    inOrder (s.winusb = some winusb ∧ size ≤ bufferSize) s

variable {R : Type} {post : R → WinSession → Prop} {s : WinSession}

/-- A call, whatever follows it. -/
lemma follows_win {q : WinCall} {k : q.Answer → WinTool R}
    (next : ∀ a, ∃ s', winStep s ⟨q, a⟩ = some s' ∧ Follows winStep (k a) s' post) :
    Follows winStep (win q >>= k) s post :=
  follows_ask next

/-- How an open ends: with a device that listens to the expected pipe, or with nothing. -/
inductive WinOpened : Bool × Option WinDevice → WinSession → Prop where
  | failed : WinOpened (false, some .closed) .idle
  | opened (file winusb : Nat) (size : UInt16) :
      WinOpened (true, some ⟨⟨some winusb, expectedPipeId, size⟩, some file⟩)
        ⟨false, some file, some winusb, false⟩

/-- A close gives both handles back, whichever are held. -/
lemma closeDevice_follows (dev : WinDevice) (path : Bool) :
    Follows winStep (closeDevice (some dev)) ⟨path, dev.deviceHandle, dev.winUsbHandle, false⟩
      fun d s => d = some .closed ∧ s = ⟨path, none, none, false⟩ := by
  obtain ⟨⟨winusb, pipe, size⟩, file⟩ := dev
  cases winusb with
  | none =>
    cases file with
    | none => exact follows_halt ⟨rfl, rfl⟩
    | some file => exact follows_win fun _ => ⟨_, inOrder_pos ⟨rfl, rfl⟩ _, follows_halt ⟨rfl, rfl⟩⟩
  | some winusb =>
    refine follows_win fun _ => ⟨_, inOrder_pos ⟨rfl, rfl⟩ _, ?_⟩
    cases file with
    | none => exact follows_halt ⟨rfl, rfl⟩
    | some file => exact follows_win fun _ => ⟨_, inOrder_pos ⟨rfl, rfl⟩ _, follows_halt ⟨rfl, rfl⟩⟩

/-- An open that fails gives back what it has got. -/
lemma failOpen_follows (dev : WinDevice) :
    Follows winStep (failOpen dev) ⟨false, dev.deviceHandle, dev.winUsbHandle, false⟩
      WinOpened := by
  refine (closeDevice_follows dev false).bind fun d s ended => ?_
  obtain ⟨rfl, rfl⟩ := ended
  exact follows_halt .failed

/-- The pipe a device listens to is the expected one, or none. -/
def Listening (dev : WinDevice) : Prop :=
  dev.interruptInPipe = 0 ∨ dev.interruptInPipe = expectedPipeId

/-- A pipe that is taken up leaves a device listening. -/
lemma Listening.listen {dev : WinDevice} (l : Listening dev) (p : PipeInformation) :
    Listening (dev.listen p) := by
  unfold WinDevice.listen
  split
  · next expected => exact .inr expected.1
  · exact l

/-- Taking up a pipe leaves the handles alone. -/
lemma listen_handles (dev : WinDevice) (p : PipeInformation) :
    (dev.listen p).winUsbHandle = dev.winUsbHandle ∧
      (dev.listen p).deviceHandle = dev.deviceHandle := by
  unfold WinDevice.listen
  split <;> exact ⟨rfl, rfl⟩

/-- The loop keeps the handles, and the session as it is. -/
lemma queryPipes_follows {winusb : Nat} {dev : WinDevice} (is : List Nat) (l : Listening dev)
    (handle : s.winusb = some winusb) :
    Follows winStep (queryPipes winusb dev is) s fun d s' => s' = s ∧ ∀ dev' ∈ d,
      Listening dev' ∧ dev'.winUsbHandle = dev.winUsbHandle ∧
        dev'.deviceHandle = dev.deviceHandle := by
  induction is generalizing dev with
  | nil =>
    refine follows_halt ⟨rfl, ?_⟩
    rintro dev' ⟨⟩
    exact ⟨l, rfl, rfl⟩
  | cons i is ih =>
    refine follows_win fun answered => ⟨s, inOrder_pos handle s, ?_⟩
    cases answered with
    | none => exact follows_halt ⟨rfl, nofun⟩
    | some p =>
      refine (ih (l.listen p)).mono fun d s' ended => ⟨ended.1, fun dev' mem => ?_⟩
      rw [← (listen_handles dev p).1, ← (listen_handles dev p).2]
      exact ended.2 dev' mem

/-- Whatever the system answers, an open hands out a device, or holds nothing. -/
lemma openDevice_follows (old : WinDevice) :
    Follows winStep (openDevice (some old)) .idle WinOpened := by
  have begun (search : DongleSearch) : winStep .idle ⟨.search, search⟩
      = some { WinSession.idle with path := search.result.found } :=
    inOrder_pos rfl _
  refine follows_win fun search => ⟨_, begun search, ?_⟩
  cases found : search.result.found with
  | false => exact follows_halt .failed
  | true =>
    refine follows_win fun created => ⟨_, inOrder_pos ⟨rfl, rfl⟩ _, ?_⟩
    refine follows_win fun _ => ⟨_, inOrder_pos rfl _, ?_⟩
    cases created with
    | none => exact failOpen_follows .closed
    | some file =>
      refine follows_win fun initialized => ⟨_, inOrder_pos ⟨rfl, rfl⟩ _, ?_⟩
      cases initialized with
      | none => exact failOpen_follows ⟨⟨none, 0, 0⟩, some file⟩
      | some winusb =>
        refine follows_win fun settings => ⟨_, inOrder_pos rfl _, ?_⟩
        cases settings with
        | none => exact failOpen_follows ⟨⟨some winusb, 0, 0⟩, some file⟩
        | some numEndpoints =>
          refine (queryPipes_follows (List.range numEndpoints.toNat) (.inl rfl) rfl).bind
            fun d s ended => ?_
          obtain ⟨rfl, listening⟩ := ended
          cases d with
          | none => exact failOpen_follows ⟨⟨some winusb, 0, 0⟩, some file⟩
          | some dev =>
            obtain ⟨⟨handle, pipe, size⟩, device⟩ := dev
            obtain ⟨silent | expected, same, same'⟩ := listening _ rfl
            · cases same
              cases same'
              cases silent
              exact failOpen_follows ⟨⟨some winusb, 0, size⟩, some file⟩
            · cases same
              cases same'
              cases expected
              exact follows_halt (.opened file winusb size)

/-- The pipes that the answers show, one for each index. -/
def Queried (answer : (q : WinCall) → q.Answer) (winusb : Nat) (is : List Nat)
    (pipes : List PipeInformation) : Prop :=
  List.Forall₂ (fun i p => answer (.queryPipe winusb (UInt8.ofNat i)) = some p) is pipes

/-- The answers let an open get both handles, and see all pipes of the interface. -/
structure Openable (answer : (q : WinCall) → q.Answer) (file winusb : Nat)
    (pipes : List PipeInformation) : Prop where
  found : (answer .search).result.found = true
  created : answer (.createFile (answer .search).result.outDevicePath.join) = some file
  initialized : answer (.winUsbInitialize file) = some winusb
  queried : ∃ n, answer (.querySettings winusb) = some n ∧
    Queried answer winusb (List.range n.toNat) pipes

/-- The last pipe to listen on has packets of this size. -/
def LastExpected (pipes : List PipeInformation) (size : UInt16) : Prop :=
  ∃ before p after, pipes = before ++ p :: after ∧ p.Expected ∧
    (∀ q ∈ after, ¬ q.Expected) ∧ p.maximumPacketSize = size

section
variable {answer : (q : WinCall) → q.Answer} {winusb : Nat} {dev : WinDevice} {is : List Nat}
  {pipes pipes' : List PipeInformation}

/-- The answers show one list of pipes only. -/
lemma Queried.unique (queried : Queried answer winusb is pipes)
    (queried' : Queried answer winusb is pipes') : pipes = pipes' := by
  induction queried generalizing pipes' with
  | nil =>
    cases queried'
    rfl
  | cons asked _ ih =>
    cases queried' with
    | cons asked' rest =>
      cases asked.symm.trans asked'
      rw [ih rest]

/-- Where all pipes can be seen, the device listens on the expected ones. -/
lemma queryPipes_result (queried : Queried answer winusb is pipes) :
    result answer (queryPipes winusb dev is) = some (pipes.foldl .listen dev) := by
  induction queried generalizing dev with
  | nil => rfl
  | cons asked _ ih =>
    refine (result_bind answer).trans ?_
    rw [win, question, result_ask, asked]
    exact ih

/-- Where a pipe cannot be seen, the query fails. -/
lemma queryPipes_failed (unqueried : ∀ pipes, ¬ Queried answer winusb is pipes) :
    result answer (queryPipes winusb dev is) = none := by
  induction is generalizing dev with
  | nil => exact absurd .nil (unqueried [])
  | cons i is ih =>
    refine (result_bind answer).trans ?_
    cases asked : answer (.queryPipe winusb (UInt8.ofNat i)) with
    | none =>
      rw [win, question, result_ask, asked]
      rfl
    | some p =>
      rw [win, question, result_ask, asked]
      exact ih fun pipes queried => unqueried (p :: pipes) (.cons asked queried)

/-- Pipes that are not expected change nothing. -/
lemma foldl_listen_idle (idle : ∀ p ∈ pipes, ¬ p.Expected) : pipes.foldl .listen dev = dev := by
  induction pipes with
  | nil => rfl
  | cons p pipes ih =>
    have same : dev.listen p = dev := if_neg (idle p List.mem_cons_self)
    rw [List.foldl_cons, same]
    exact ih fun q mem => idle q (List.mem_cons_of_mem p mem)

/-- Taking up pipes leaves the handles alone. -/
lemma foldl_listen_handles : (pipes.foldl .listen dev).winUsbHandle = dev.winUsbHandle ∧
    (pipes.foldl .listen dev).deviceHandle = dev.deviceHandle := by
  induction pipes generalizing dev with
  | nil => exact ⟨rfl, rfl⟩
  | cons p pipes ih =>
    rw [List.foldl_cons, ← (listen_handles dev p).1, ← (listen_handles dev p).2]
    exact ih

/-- The device listens to the last pipe that is expected. -/
lemma foldl_listen_last {size : UInt16} (last : LastExpected pipes size) :
    pipes.foldl .listen dev
      = ⟨⟨dev.winUsbHandle, expectedPipeId, size⟩, dev.deviceHandle⟩ := by
  obtain ⟨before, p, after, rfl, expected, idle, rfl⟩ := last
  have chosen (d : WinDevice) : d.listen p
      = ⟨⟨d.winUsbHandle, p.pipeId, p.maximumPacketSize⟩, d.deviceHandle⟩ := if_pos expected
  rw [List.foldl_append, List.foldl_cons, foldl_listen_idle idle, chosen, foldl_listen_handles.1,
    foldl_listen_handles.2, expected.1]

/-- There is a last expected pipe, or there is none at all. -/
lemma lastExpected_or (pipes : List PipeInformation) :
    (∃ size, LastExpected pipes size) ∨ ∀ p ∈ pipes, ¬ p.Expected := by
  induction pipes with
  | nil => exact .inr nofun
  | cons p pipes ih =>
    obtain ⟨size, before, q, after, rfl, rest⟩ | idle := ih
    · exact .inl ⟨size, p :: before, q, after, rfl, rest⟩
    · by_cases expected : p.Expected
      · exact .inl ⟨_, [], p, pipes, rfl, expected, idle, rfl⟩
      · refine .inr fun q mem => ?_
        obtain rfl | mem := List.mem_cons.mp mem
        · exact expected
        · exact idle q mem

/-- A device that is closed is a closed device. -/
lemma failOpen_result (dev : WinDevice) :
    result answer (failOpen dev) = (false, some .closed) := by
  obtain ⟨⟨winusb, pipe, size⟩, file⟩ := dev
  cases winusb <;> cases file <;> rfl

/-- The answers do not let an open see all pipes. -/
def Unopenable (answer : (q : WinCall) → q.Answer) : Prop :=
  ∀ file winusb pipes, ¬ Openable answer file winusb pipes

/-- How far the answers let an open get. -/
inductive Reaches (answer : (q : WinCall) → q.Answer) : Prop where
  | nothing (found : (answer .search).result.found = false) (stuck : Unopenable answer)
  | path (found : (answer .search).result.found = true)
      (created : answer (.createFile (answer .search).result.outDevicePath.join) = none)
      (stuck : Unopenable answer)
  | file (file : Nat) (found : (answer .search).result.found = true)
      (created : answer (.createFile (answer .search).result.outDevicePath.join) = some file)
      (initialized : answer (.winUsbInitialize file) = none) (stuck : Unopenable answer)
  | interface (file winusb : Nat) (found : (answer .search).result.found = true)
      (created : answer (.createFile (answer .search).result.outDevicePath.join) = some file)
      (initialized : answer (.winUsbInitialize file) = some winusb)
      (settings : answer (.querySettings winusb) = none) (stuck : Unopenable answer)
  | settings (file winusb : Nat) (n : UInt8) (found : (answer .search).result.found = true)
      (created : answer (.createFile (answer .search).result.outDevicePath.join) = some file)
      (initialized : answer (.winUsbInitialize file) = some winusb)
      (settings : answer (.querySettings winusb) = some n)
      (unqueried : ∀ pipes, ¬ Queried answer winusb (List.range n.toNat) pipes)
      (stuck : Unopenable answer)
  | pipes (file winusb : Nat) (pipes : List PipeInformation)
      (openable : Openable answer file winusb pipes)

/-- The answers let an open get somewhere, to its end or not. -/
lemma reaches (answer : (q : WinCall) → q.Answer) : Reaches answer := by
  cases found : (answer .search).result.found with
  | false =>
    refine .nothing found fun file winusb pipes openable => ?_
    cases found.symm.trans openable.found
  | true =>
    cases created : answer (.createFile (answer .search).result.outDevicePath.join) with
    | none =>
      refine .path found created fun file winusb pipes openable => ?_
      cases created.symm.trans openable.created
    | some file =>
      cases initialized : answer (.winUsbInitialize file) with
      | none =>
        refine .file file found created initialized fun file' winusb pipes openable => ?_
        cases created.symm.trans openable.created
        cases initialized.symm.trans openable.initialized
      | some winusb =>
        have here {file' winusb' : Nat} {pipes : List PipeInformation}
            (openable : Openable answer file' winusb' pipes) : ∃ n,
            answer (.querySettings winusb) = some n ∧
              Queried answer winusb (List.range n.toNat) pipes := by
          cases created.symm.trans openable.created
          cases initialized.symm.trans openable.initialized
          exact openable.queried
        cases settings : answer (.querySettings winusb) with
        | none =>
          refine .interface file winusb found created initialized settings
            fun file' winusb' pipes openable => ?_
          obtain ⟨n, settings', _⟩ := here openable
          cases settings.symm.trans settings'
        | some n =>
          by_cases queried : ∃ pipes, Queried answer winusb (List.range n.toNat) pipes
          · obtain ⟨pipes, queried⟩ := queried
            exact .pipes file winusb pipes ⟨found, created, initialized, n, settings, queried⟩
          · refine .settings file winusb n found created initialized settings
              (not_exists.mp queried) fun file' winusb' pipes openable => queried ?_
            obtain ⟨n', settings', queried'⟩ := here openable
            cases settings.symm.trans settings'
            exact ⟨pipes, queried'⟩

/-- The answers let an open get to one end only. -/
lemma Openable.unique {file file' winusb' : Nat} (openable : Openable answer file winusb pipes)
    (openable' : Openable answer file' winusb' pipes') :
    file' = file ∧ winusb' = winusb ∧ pipes' = pipes := by
  cases openable.created.symm.trans openable'.created
  cases openable.initialized.symm.trans openable'.initialized
  obtain ⟨n, settings, queried⟩ := openable.queried
  obtain ⟨n', settings', queried'⟩ := openable'.queried
  cases settings.symm.trans settings'
  exact ⟨rfl, rfl, queried'.unique queried⟩

/-- What comes out of an open, by what the answers show. -/
inductive Opens (answer : (q : WinCall) → q.Answer) : Bool × Option WinDevice → Prop where
  | opened (file winusb : Nat) (pipes : List PipeInformation) (size : UInt16)
      (openable : Openable answer file winusb pipes) (last : LastExpected pipes size) :
      Opens answer (true, some ⟨⟨some winusb, expectedPipeId, size⟩, some file⟩)
  | failed (unexpected : ∀ file winusb pipes, Openable answer file winusb pipes →
      ∀ p ∈ pipes, ¬ p.Expected) : Opens answer (false, some .closed)

/-- The result of an open is told by the answers. -/
lemma openDevice_opens (answer : (q : WinCall) → q.Answer) (old : WinDevice) :
    Opens answer (result answer (openDevice (some old))) := by
  have unopened (stuck : Unopenable answer) : Opens answer (false, some .closed) :=
    .failed fun file winusb pipes openable => absurd openable (stuck file winusb pipes)
  simp only [openDevice, win, bind_eq, question_bind, result_ask]
  cases reaches answer with
  | nothing found stuck =>
    simp only [found, if_true, pure_eq, result_halt]
    exact unopened stuck
  | path found created stuck =>
    simp only [found, created, Bool.true_eq_false, if_false, result_ask, failOpen_result]
    exact unopened stuck
  | file file found created initialized stuck =>
    simp only [found, created, initialized, Bool.true_eq_false, if_false, result_ask,
      failOpen_result]
    exact unopened stuck
  | interface file winusb found created initialized settings stuck =>
    simp only [found, created, initialized, settings, Bool.true_eq_false, if_false, result_ask,
      failOpen_result]
    exact unopened stuck
  | settings file winusb n found created initialized settings unqueried stuck =>
    simp only [found, created, initialized, settings, Bool.true_eq_false, if_false, result_ask,
      result_bind, queryPipes_failed unqueried, failOpen_result]
    exact unopened stuck
  | pipes file winusb pipes openable =>
    obtain ⟨n, settings, queried⟩ := openable.queried
    simp only [openable.found, openable.created, openable.initialized, settings,
      Bool.true_eq_false, if_false, result_ask, result_bind, queryPipes_result queried]
    obtain ⟨size, last⟩ | idle := lastExpected_or pipes
    · rw [foldl_listen_last last]
      exact .opened file winusb pipes size openable last
    · rw [foldl_listen_idle idle]
      refine .failed fun file' winusb' pipes' openable' => ?_
      obtain ⟨_, _, rfl⟩ := openable.unique openable'
      exact idle

end

end Ks959.Tools
