import Ks959.Lib.Memory
import Ks959.Lib.Transducer

/-!
# The interrupt endpoint monitor (`ks959_ep81_monitor.c`)

A 64-byte read of the interrupt endpoint gathers packets of up to 8 bytes until a short packet, a
full buffer, a timeout or an error: it is the transducer `interruptTransfer`, from what arrives on
the endpoint to the reads that complete. `ep81Loop` is the loop of the tool over the completed
reads.

The loop goes back to the start on a timeout before it looks at `transferred`, so it drops what the
read has gathered (`timeout_drops_packet`). `dumped_all_iff` says when it drops nothing.
-/

namespace Ks959.Tools
open CMemory

def libusbErrorTimeout : Int := -7

/-- A packet of the endpoint, whose `wMaxPacketSize` is 8. -/
structure Packet where
  bytes : List UInt8
  small : bytes.length ≤ 8
deriving DecidableEq

/-- What can happen on the endpoint while a read is outstanding. -/
inductive EndpointEvent where
  | packet (p : Packet)
  | timeout
  | fault (code : Int) (negative : code < 0) (other : code ≠ libusbErrorTimeout)

/-- What an outstanding read has gathered: whole packets, and room for one more. -/
structure Gathered where
  bytes : List UInt8
  whole : 8 ∣ bytes.length
  room : bytes.length < 64

/-- A read that has just been submitted. -/
def Gathered.empty : Gathered := ⟨[], Nat.dvd_zero 8, by decide⟩

/-- A read that has completed: the value returned, and the bytes stored and counted in
    `transferred`. -/
structure Completion where
  r : Int
  stored : List UInt8
  fits : stored.length ≤ 64

/-- There is room for a packet. -/
lemma Gathered.fits (g : Gathered) (p : Packet) : (g.bytes ++ p.bytes).length ≤ 64 := by
  obtain ⟨n, whole⟩ := g.whole
  have room := g.room
  have small := p.small
  rw [List.length_append]
  omega

/-- The packet does not end the read: it is not short, and does not fill the buffer. -/
def Gathered.Continues (g : Gathered) (p : Packet) : Prop :=
  p.bytes.length = 8 ∧ g.bytes.length + 8 < 64

instance (g : Gathered) (p : Packet) : Decidable (g.Continues p) :=
  inferInstanceAs (Decidable (_ ∧ _))

/-- `libusb_interrupt_transfer`, submitted again whenever it completes. -/
def interruptTransfer : Transducer Gathered EndpointEvent Completion where
  next
    | g, .packet p =>
      if h : g.Continues p then
        ⟨g.bytes ++ p.bytes, by rw [List.length_append, h.1]; exact Nat.dvd_add g.whole ⟨1, rfl⟩,
          by rw [List.length_append, h.1]; exact h.2⟩
      else
        .empty
    | _, .timeout => .empty
    | _, .fault _ _ _ => .empty
  emit
    | g, .packet p => if g.Continues p then none else some ⟨0, g.bytes ++ p.bytes, g.fits p⟩
    | g, .timeout => some ⟨libusbErrorTimeout, g.bytes, g.room.le⟩
    | g, .fault code _ _ => some ⟨code, g.bytes, g.room.le⟩

/-- `hex_dump`: the bytes printed, `left` of them from `i` on. -/
def hexDump (mem : Mem Unit UInt8) : (left i : Nat) → Option (List UInt8)
  | 0, _ => some []
  | left + 1, i => do
    let byte ← mem.load () i
    let rest ← hexDump mem left (i + 1)
    some (byte :: rest)

/-- The loop of the tool over the reads that complete: the bytes it dumps. -/
def ep81Loop (mem : Mem Unit UInt8) : List Completion → Option (List UInt8)
  | [] => some []
  | read :: reads => do
    let mem ← mem.write () read.stored
    let transferred := read.stored.length
    if read.r = libusbErrorTimeout then
      -- `continue`, before `transferred` is looked at
      ep81Loop mem reads
    else if read.r < 0 then
      ep81Loop mem reads
    else if transferred > 0 then do
      let dump ← hexDump mem transferred 0
      let rest ← ep81Loop mem reads
      some (dump ++ rest)
    else
      ep81Loop mem reads

/-- `ks959_ep81_monitor.c`: the bytes dumped while `events` happen; `buf` is what its buffer
    holds. -/
def ep81Monitor (buf : Vector UInt8 64) (events : List EndpointEvent) : Option (List UInt8) :=
  ep81Loop (fun _ => buf.toList) (interruptTransfer.output .empty events)

/-- The read has succeeded or timed out. -/
def Completion.Counts (read : Completion) : Prop := 0 ≤ read.r ∨ read.r = libusbErrorTimeout

instance (read : Completion) : Decidable read.Counts := inferInstanceAs (Decidable (_ ∨ _))

/-- The bytes stored by the reads that succeed or time out. -/
def storedBytes (reads : List Completion) : List UInt8 :=
  (reads.filter fun read => read.Counts).flatMap Completion.stored

/-- The bytes stored while `events` happen. -/
def storedOn (events : List EndpointEvent) : List UInt8 :=
  storedBytes (interruptTransfer.output .empty events)

/-- Every timeout comes when the number of full packets since the last short packet, timeout or
    error, `pending` of them before the start, is a multiple of 8. -/
def TimeoutsIdle : (pending : Nat) → List EndpointEvent → Prop
  | _, [] => True
  | pending, .packet p :: events =>
    TimeoutsIdle (if p.bytes.length = 8 then pending + 1 else 0) events
  | pending, .timeout :: events => 8 ∣ pending ∧ TimeoutsIdle 0 events
  | _, .fault _ _ _ :: events => TimeoutsIdle 0 events

/-- The bytes stored by the reads that succeed. -/
def dumpedBytes (reads : List Completion) : List UInt8 :=
  (reads.filter fun read => 0 ≤ read.r).flatMap Completion.stored

variable {mem : Mem Unit UInt8} {bytes : List UInt8} {read : Completion} {reads : List Completion}
  {g : Gathered} {pending i : Nat}

/-- The dump shows the bytes that it is given. -/
lemma hexDump_eq (unread : mem.Unread () i bytes) : hexDump mem bytes.length i = some bytes := by
  induction bytes generalizing i with
  | nil => rfl
  | cons byte bytes ih =>
    have load := unread.load
    have rest := ih unread.tail
    simp [hexDump, load, rest]

/-- A read that has succeeded is dumped. -/
lemma dumpedBytes_success (success : 0 ≤ read.r) :
    dumpedBytes (read :: reads) = read.stored ++ dumpedBytes reads := by
  simp [dumpedBytes, success]

/-- A read that has failed is not. -/
lemma dumpedBytes_error (negative : read.r < 0) :
    dumpedBytes (read :: reads) = dumpedBytes reads := by
  simp [dumpedBytes, negative]

/-- The bytes of a read that counts are to be dumped. -/
lemma storedBytes_counts (counts : read.Counts) :
    storedBytes (read :: reads) = read.stored ++ storedBytes reads := by
  simp [storedBytes, counts]

/-- Those of another read are not. -/
lemma storedBytes_fault (fault : ¬ read.Counts) :
    storedBytes (read :: reads) = storedBytes reads := by
  simp [storedBytes, fault]

/-- Nothing is dumped that has not been stored. -/
lemma length_dumpedBytes_le (reads : List Completion) :
    (dumpedBytes reads).length ≤ (storedBytes reads).length := by
  induction reads with
  | nil => rfl
  | cons read reads ih =>
    rcases le_or_gt 0 read.r with success | negative
    · rw [dumpedBytes_success success, storedBytes_counts (.inl success), List.length_append,
        List.length_append]
      exact Nat.add_le_add_left ih _
    · rw [dumpedBytes_error negative]
      by_cases counts : read.Counts
      · rw [storedBytes_counts counts, List.length_append]
        exact Nat.le_add_left_of_le ih
      · rw [storedBytes_fault counts]
        exact ih

/-- The loop dumps what is stored by the reads that succeed. -/
lemma ep81Loop_eq (sized : (mem ()).length = 64) :
    ep81Loop mem reads = some (dumpedBytes reads) := by
  induction reads generalizing mem with
  | nil => rfl
  | cons read reads ih =>
    have fits : read.stored.length ≤ (mem ()).length := by
      rw [sized]
      exact read.fits
    obtain ⟨mem', stored⟩ : ∃ mem', mem' = mem.splice () read.stored := ⟨_, rfl⟩
    have sized' : (mem' ()).length = 64 := by
      rw [stored, Mem.length_splice fits, sized]
    have dump : hexDump mem' read.stored.length 0 = some read.stored := by
      have here : mem'.Unread () 0 read.stored := by
        rw [stored, Mem.Unread, Mem.splice_same]
        simp
      exact hexDump_eq here
    rw [ep81Loop, Mem.write_eq fits, ← stored]
    simp only [Option.bind_eq_bind, Option.bind_some]
    rw [ih sized', dump]
    split_ifs with timeout negative some
    · have negative : read.r < 0 := by
        rw [timeout]
        decide
      rw [dumpedBytes_error negative]
    · rw [dumpedBytes_error negative]
    · rw [dumpedBytes_success (Int.not_lt.mp negative)]
      rfl
    · have none : read.stored = [] := List.length_eq_zero_iff.mp (Nat.eq_zero_of_not_pos some)
      rw [dumpedBytes_success (Int.not_lt.mp negative), none, List.nil_append]

/-- A read that goes on gathering. -/
lemma output_continue {p : Packet} (events : List EndpointEvent) (h : g.Continues p) :
    ∃ g' : Gathered, g'.bytes = g.bytes ++ p.bytes ∧
      interruptTransfer.output g (.packet p :: events) = interruptTransfer.output g' events := by
  refine ⟨interruptTransfer.next g (.packet p), ?_, ?_⟩
  · simp [interruptTransfer, h]
  · rw [Transducer.output_cons]
    simp [interruptTransfer, h]

/-- A read that a packet completes. -/
lemma output_complete {p : Packet} {events : List EndpointEvent} (h : ¬ g.Continues p) :
    interruptTransfer.output g (.packet p :: events)
      = ⟨0, g.bytes ++ p.bytes, g.fits p⟩ :: interruptTransfer.output .empty events := by
  rw [Transducer.output_cons]
  simp [interruptTransfer, h]

/-- A timeout ends a transfer with what has been gathered. -/
lemma output_timeout {events : List EndpointEvent} :
    interruptTransfer.output g (.timeout :: events)
      = ⟨libusbErrorTimeout, g.bytes, g.room.le⟩ :: interruptTransfer.output .empty events := rfl

/-- An error ends a transfer with what has been gathered. -/
lemma output_fault {code : Int} {negative : code < 0} {other : code ≠ libusbErrorTimeout}
    {events : List EndpointEvent} :
    interruptTransfer.output g (.fault code negative other :: events)
      = ⟨code, g.bytes, g.room.le⟩ :: interruptTransfer.output .empty events := rfl

/-- From a read that has gathered `pending` full packets since it was submitted, the loop dumps all
    that is stored exactly when every timeout comes to an empty read. -/
lemma dumped_eq_stored_iff (gathered : g.bytes.length = 8 * (pending % 8))
    (events : List EndpointEvent) :
    dumpedBytes (interruptTransfer.output g events)
        = storedBytes (interruptTransfer.output g events) ↔ TimeoutsIdle pending events := by
  -- the induction is on what happens; each event changes the outstanding read
  induction events generalizing g pending with
  | nil => exact ⟨fun _ => trivial, fun _ => rfl⟩
  | cons event events ih =>
    have fresh : Gathered.empty.bytes.length = 8 * (0 % 8) := rfl
    cases event with
    | packet p =>
      by_cases h : g.Continues p
      · obtain ⟨full, room⟩ := h
        obtain ⟨g', bytes, goes⟩ := output_continue events ⟨full, room⟩
        have next : g'.bytes.length = 8 * ((pending + 1) % 8) := by
          rw [bytes, List.length_append, full]
          omega
        rw [goes, TimeoutsIdle, if_pos full]
        exact ih next
      · rw [output_complete h, dumpedBytes_success le_rfl, storedBytes_counts (.inl le_rfl),
          List.append_cancel_left_eq, TimeoutsIdle]
        by_cases full : p.bytes.length = 8
        · have eighth : ¬ g.bytes.length + 8 < 64 := fun room => h ⟨full, room⟩
          have next : Gathered.empty.bytes.length = 8 * ((pending + 1) % 8) := by
            change 0 = _
            omega
          rw [if_pos full]
          exact ih next
        · rw [if_neg full]
          exact ih fresh
    | timeout =>
      have negative : libusbErrorTimeout < 0 := by decide
      have stores : storedBytes (⟨libusbErrorTimeout, g.bytes, g.room.le⟩
          :: interruptTransfer.output .empty events)
            = g.bytes ++ storedBytes (interruptTransfer.output .empty events) :=
        storedBytes_counts (.inr rfl)
      rw [output_timeout, dumpedBytes_error negative, stores, TimeoutsIdle]
      by_cases idle : 8 ∣ pending
      · have nothing : g.bytes = [] := by
          rw [← List.length_eq_zero_iff, gathered]
          omega
        rw [nothing, List.nil_append, ih fresh]
        exact ⟨fun rest => ⟨idle, rest⟩, And.right⟩
      · refine ⟨fun same => ?_, fun rest => absurd rest.1 idle⟩
        have lengths := congrArg List.length same
        have le := length_dumpedBytes_le (interruptTransfer.output .empty events)
        rw [List.length_append, gathered] at lengths
        omega
    | fault code negative other =>
      have discounted : ¬ Completion.Counts ⟨code, g.bytes, g.room.le⟩ := by
        rintro (success | timeout)
        · exact absurd success (Int.not_le.mpr negative)
        · exact other timeout
      rw [output_fault, dumpedBytes_error negative, storedBytes_fault discounted, TimeoutsIdle]
      exact ih fresh

/-- The monitor dumps every byte that is stored exactly when no timeout ends a read that has
    gathered something. -/
theorem dumped_all_iff (buf : Vector UInt8 64) (events : List EndpointEvent) :
    ep81Monitor buf events = some (storedOn events) ↔ TimeoutsIdle 0 events := by
  rw [ep81Monitor, ep81Loop_eq Vector.length_toList, Option.some.injEq]
  exact dumped_eq_stored_iff rfl events

/-- A full packet, and then nothing until the timeout. -/
def packetThenTimeout : List EndpointEvent :=
  [.packet ⟨[1, 2, 3, 4, 5, 6, 7, 8], by decide⟩, .timeout]

/-- A packet, and a timeout before the buffer is full: nothing is dumped. -/
theorem timeout_drops_packet :
    storedOn packetThenTimeout = [1, 2, 3, 4, 5, 6, 7, 8] ∧
      ep81Monitor (.replicate 64 0) packetThenTimeout = some [] := by
  refine ⟨rfl, ?_⟩
  rw [ep81Monitor, ep81Loop_eq Vector.length_toList]
  rfl

end Ks959.Tools
