import StoreSaas.Library.Faults
import StoreSaas.Verified.OutboxPolling

/-! # Draining the outbox

One processor that polls again and again while no event arrives, and the failures that its
loop catches.  The mails that the queue has accepted stand beside the database.
-/

namespace StoreSaas

/-- The database, and the mails in the order in which the queue has accepted them. -/
structure Mailroom where
  db : Database
  queue : List MailMessage

/-- The events that are still to be processed. -/
def Database.pending (db : Database) : Table OutboxEvent.id := db.outboxEvents.restrict fun event => event.processed = false

/-- The mail that a statement hands to the queue. -/
def Statement.mail : Statement → List MailMessage
  | .enqueueMail message => [message]
  | _ => []

namespace Mailroom

def executeOn (op : Statement) (room : Mailroom) : Except ApiError op.Reply × Mailroom :=
  ((shop.executeOn op room.db).1, ⟨(shop.executeOn op room.db).2, room.queue ++ op.mail⟩)

/-- One call of `pollOnce` in which nothing fails. -/
def poll (env : Environment) (room : Mailroom) : Except ApiError Nat × Mailroom :=
  (OutboxProcessor.pollOnce env).runWith (S := statements) executeOn room

/-- After the first `calls` calls. -/
def polled (envs : Nat → Environment) (room : Mailroom) : Nat → Mailroom
  | 0 => room
  | calls + 1 => (poll (envs calls) (polled envs room calls)).2

end Mailroom

/-! ## Failures -/

/-- Which statements of a call fail, by the event that they are for. -/
structure PollFailures where
  enqueue : Uuid → Option ApiError
  update : Uuid → Option ApiError

namespace PollFailures

variable (failures : PollFailures) (event : OutboxEvent)

/-- Nothing fails. -/
def none : PollFailures := ⟨fun _ => .none, fun _ => .none⟩

def refusesMail : Bool := isEmail event && (failures.enqueue event.id).isSome

/-- The enqueue of the event or its update fails. -/
def hits : Bool := failures.refusesMail event || (failures.update event.id).isSome

/-- The queue gets the mail of the event. -/
def mails : Bool := isEmail event && !failures.refusesMail event

/-- How the statements for one event go, in the order of the code. -/
def schedule : Schedule ApiError :=
  if failures.refusesMail event then [failures.enqueue event.id]
  else if isEmail event then [.none, failures.update event.id]
  else [failures.update event.id]

end PollFailures

namespace Mailroom

/-- The events that a call selects. -/
def batch (env : Environment) (room : Mailroom) : List OutboxEvent :=
  room.db.pendingEvents OutboxProcessor.batchSize env.rank

/-- One call of `pollOnce` whose `find` goes well. -/
def pollDuring (failures : PollFailures) (env : Environment) (room : Mailroom) : Except ApiError Nat × Mailroom :=
  let ended := (OutboxProcessor.pollOnce env).runWith (S := statements) (Program.executeScheduled executeOn)
    (room, .none :: (room.batch env).flatMap failures.schedule)
  (ended.1, ended.2.1)

/-- From the pending events, one of each instant, the calls take twenty at a time in the order of their creation,
    until none is left. -/
structure Drains (envs : Nat → Environment) (room : Mailroom) (ordered : List OutboxEvent) : Prop where
  complete : ordered.Perm room.db.pending.rows
  inOrder : ordered.Pairwise fun left right => left.createdAt < right.createdAt
  remaining : ∀ calls, (room.polled envs calls).db.pending.rows.length = ordered.length - 20 * calls
  returns : ∀ calls, ((room.polled envs calls).poll (envs calls)).1 =
    .ok (min 20 (room.polled envs calls).db.pending.rows.length)
  drained : (room.polled envs ((ordered.length + 19) / 20)).db.pending.rows = []
  enqueued : (room.polled envs ((ordered.length + 19) / 20)).queue =
    room.queue ++ (ordered.filter isEmail).map OutboxEvent.payload
  /-- All of `OutboxService` is mail. -/
  everyMail : (∀ event ∈ ordered, event.eventType = "send-email") →
    (room.polled envs ((ordered.length + 19) / 20)).queue = room.queue ++ ordered.map OutboxEvent.payload

/-- A failure concerns its own event alone. -/
structure FailsAlone (failures : PollFailures) (env : Environment) (room : Mailroom) : Prop where
  returns : (room.pollDuring failures env).1 = .ok (min 20 room.db.pending.rows.length)
  stays : ∀ event, event ∈ (room.pollDuring failures env).2.db.pending.rows ↔
    event ∈ room.db.pending.rows ∧ (event ∈ room.batch env → failures.hits event = true)
  marked : ∀ event ∈ room.batch env, failures.hits event = false →
    (room.pollDuring failures env).2.db.outboxEvents.find event.id = some (event.markProcessed env.now)
  enqueued : (room.pollDuring failures env).2.queue =
    room.queue ++ ((room.batch env).filter failures.mails).map OutboxEvent.payload

end Mailroom

/-! ## One event -/

namespace Mailroom

variable (failures : PollFailures) (env : Environment) (room : Mailroom) (event : OutboxEvent)

/-- After the round of the loop for one event. -/
def served : Mailroom where
  db := if failures.hits event then room.db else room.db.markProcessed event.id env.now
  queue := room.queue ++ if failures.mails event then [event.payload] else []

theorem executeOn_markProcessed (id : Uuid) (now : Timestamp) :
    executeOn (.outbox (.markProcessed id now)) room = (.ok (), ⟨room.db.markProcessed id now, room.queue⟩) := by
  have marks := room.db.executeOn_markProcessed id now
  simp only [executeOn, marks, Statement.mail, List.append_nil]

/-- The update, which is the last statement for an event. -/
theorem runWith_mark (rest : Schedule ApiError) :
    ((Tx.outbox (.markProcessed event.id env.now)).runWith (S := statements) (Program.executeScheduled executeOn)
        (room, failures.update event.id :: rest)).2 =
      (⟨if (failures.update event.id).isSome then room.db else room.db.markProcessed event.id env.now, room.queue⟩,
        rest) := by
  cases updates : failures.update event.id with
  | some error => exact congrArg Prod.snd (Program.runWith_scheduled_error executeOn _ error room rest)
  | none =>
    exact congrArg Prod.snd (Program.runWith_scheduled_ok executeOn (S := statements)
      (executeOn_markProcessed room event.id env.now) rest)

theorem runWith_deliver_refused {event : OutboxEvent} (email : event.eventType = "send-email") (error : ApiError)
    (rest : Schedule ApiError) :
    (OutboxProcessor.deliver env event).runWith (S := statements) (Program.executeScheduled executeOn)
        (room, some error :: rest) = (.error error, room, rest) := by
  unfold OutboxProcessor.deliver OutboxProcessor.enqueue
  rw [if_pos email]
  exact Program.runWith_perform_bind _ _ _ _

theorem runWith_deliver_mailed {event : OutboxEvent} (email : event.eventType = "send-email") (schedule : Schedule ApiError) :
    (OutboxProcessor.deliver env event).runWith (S := statements) (Program.executeScheduled executeOn)
        (room, .none :: schedule) =
      (Tx.outbox (.markProcessed event.id env.now)).runWith (S := statements) (Program.executeScheduled executeOn)
        (⟨room.db, room.queue ++ [event.payload]⟩, schedule) := by
  unfold OutboxProcessor.deliver OutboxProcessor.enqueue
  rw [if_pos email]
  exact Program.runWith_perform_bind _ _ _ _

theorem runWith_deliver_other {event : OutboxEvent} (other : event.eventType ≠ "send-email") (schedule : Schedule ApiError) :
    (OutboxProcessor.deliver env event).runWith (S := statements) (Program.executeScheduled executeOn) (room, schedule) =
      (Tx.outbox (.markProcessed event.id env.now)).runWith (S := statements) (Program.executeScheduled executeOn)
        (room, schedule) := by
  unfold OutboxProcessor.deliver OutboxProcessor.enqueue
  rw [if_neg other]
  rfl

/-- The loop leaves the database and the queue as `served` says, whatever fails. -/
theorem runWith_process (rest : Schedule ApiError) :
    (OutboxProcessor.process env event).runWith (S := statements) (Program.executeScheduled executeOn)
        (room, failures.schedule event ++ rest) = (.ok (), room.served failures env event, rest) := by
  refine (Program.runWith_tryCatch_done _ _ _).trans (congrArg (Prod.mk _) ?_)
  unfold served PollFailures.hits PollFailures.mails PollFailures.schedule
  by_cases email : event.eventType = "send-email"
  · have isMail : isEmail event = true := decide_eq_true email
    cases refuses : failures.enqueue event.id with
    | some error =>
      have refused : failures.refusesMail event = true := by rw [PollFailures.refusesMail, isMail, refuses]; rfl
      rw [refused, if_pos rfl, List.singleton_append, runWith_deliver_refused env room email]
      simp
    | none =>
      have accepted : failures.refusesMail event = false := by rw [PollFailures.refusesMail, isMail, refuses]; rfl
      rw [accepted, if_neg Bool.false_ne_true, isMail, if_pos rfl, List.cons_append, List.singleton_append,
        runWith_deliver_mailed env room email, runWith_mark]
      simp
  · have notMail : isEmail event = false := decide_eq_false email
    have accepted : failures.refusesMail event = false := by rw [PollFailures.refusesMail, notMail]; rfl
    rw [accepted, if_neg Bool.false_ne_true, notMail, if_neg Bool.false_ne_true, List.singleton_append,
      runWith_deliver_other env room email, runWith_mark]
    simp

end Mailroom

/-! ## One call -/

namespace Mailroom

variable {failures : PollFailures} {env : Environment} {room : Mailroom} {events : List OutboxEvent}

/-- After the rounds for some events. -/
def servedAll (failures : PollFailures) (env : Environment) : List OutboxEvent → Mailroom → Mailroom
  | [], room => room
  | event :: rest, room => servedAll failures env rest (room.served failures env event)

theorem runWith_processAll (rest : Schedule ApiError) :
    (OutboxProcessor.processAll env events).runWith (S := statements) (Program.executeScheduled executeOn)
        (room, events.flatMap failures.schedule ++ rest) = (.ok (), servedAll failures env events room, rest) := by
  induction events generalizing room with
  | nil => rfl
  | cons event others ih =>
    rw [List.flatMap_cons, List.append_assoc]
    exact (Program.runWith_bind_ok _ (runWith_process failures env room event _)).trans ih

theorem pollDuring_eq : room.pollDuring failures env =
    (.ok (room.batch env).length, servedAll failures env (room.batch env) room) := by
  have selects : executeOn (.outbox (.findPending OutboxProcessor.batchSize env.rank)) room = (.ok (room.batch env), room) :=
    congrArg (Prod.mk _) (congrArg (Mailroom.mk room.db) (List.append_nil room.queue))
  have selected := Program.runWith_scheduled_ok executeOn (S := statements) selects
    ((room.batch env).flatMap failures.schedule)
  have processes : (OutboxProcessor.processAll env (room.batch env)).runWith (S := statements)
      (Program.executeScheduled executeOn) (room, (room.batch env).flatMap failures.schedule ++ []) =
        (.ok (), servedAll failures env (room.batch env) room, []) := runWith_processAll []
  rw [List.append_nil] at processes
  have ran : (OutboxProcessor.pollOnce env).runWith (S := statements) (Program.executeScheduled executeOn)
      (room, .none :: (room.batch env).flatMap failures.schedule) =
        (.ok (room.batch env).length, servedAll failures env (room.batch env) room, []) :=
    (Program.runWith_bind_ok _ selected).trans (Program.runWith_bind_ok _ processes)
  unfold pollDuring
  dsimp only
  rw [ran]

/-- A call in which nothing fails is one on the schedule without failures. -/
theorem poll_eq : room.poll env = room.pollDuring .none env := by
  have quiet : ∀ entry ∈ Option.none :: (room.batch env).flatMap PollFailures.none.schedule, entry = Option.none := by
    intro entry scheduled
    obtain rfl | inBatch := List.mem_cons.mp scheduled
    · rfl
    · obtain ⟨event, -, isEntry⟩ := List.mem_flatMap.mp inBatch
      unfold PollFailures.schedule PollFailures.refusesMail PollFailures.none at isEntry
      cases isMail : isEmail event <;> rw [isMail] at isEntry <;> simpa using isEntry
  obtain ⟨rest, ran⟩ := Program.runWith_scheduled_none executeOn (OutboxProcessor.pollOnce env) room quiet
  unfold pollDuring
  dsimp only
  rw [ran]
  rfl

theorem queue_servedAll :
    (servedAll failures env events room).queue = room.queue ++ (events.filter failures.mails).map OutboxEvent.payload := by
  induction events generalizing room with
  | nil => exact (List.append_nil _).symm
  | cons event rest ih =>
    rw [servedAll, ih, served, List.filter_cons]
    cases failures.mails event <;> simp

/-- An event is marked if it is served and not hit. -/
theorem find_servedAll (id : Uuid) :
    (servedAll failures env events room).db.outboxEvents.find id =
      if ∃ event ∈ events, event.id = id ∧ failures.hits event = false then
        (room.db.outboxEvents.find id).map fun event => event.markProcessed env.now
      else room.db.outboxEvents.find id := by
  induction events generalizing room with
  | nil => simp [servedAll]
  | cons event rest ih =>
    rw [servedAll, ih, served]
    cases isHit : failures.hits event with
    | true => simp [isHit]
    | false =>
      rw [if_neg Bool.false_ne_true, Database.find_markProcessed]
      by_cases same : id = event.id
      · subst same
        have twice : (room.db.outboxEvents.find event.id).map (fun event => (event.markProcessed env.now).markProcessed env.now) =
            (room.db.outboxEvents.find event.id).map fun event => event.markProcessed env.now := rfl
        simp [isHit, Function.comp_def, twice]
      · simp [same, Ne.symm same]

theorem mem_pending {db : Database} {event : OutboxEvent} :
    event ∈ db.pending.rows ↔ db.outboxEvents.find event.id = some event ∧ event.processed = false := by
  rw [Database.pending, Table.mem_restrict, Table.find_eq_some_iff, decide_eq_true_iff]
  exact and_congr_left fun _ => (and_iff_left rfl).symm

theorem mem_batch {event : OutboxEvent} (inBatch : event ∈ room.batch env) : event ∈ room.db.pending.rows :=
  mem_pending.mpr (Database.mem_pendingEvents inBatch)

theorem length_batch : (room.batch env).length = min 20 room.db.pending.rows.length := by
  rw [batch, Database.pendingEvents, List.length_take, oldestFirst, List.length_insertionSort]
  rfl

theorem failsAlone (failures : PollFailures) (env : Environment) (room : Mailroom) : room.FailsAlone failures env where
  returns := by rw [pollDuring_eq, length_batch]
  stays event := by
    rw [pollDuring_eq, mem_pending, mem_pending, find_servedAll]
    by_cases marked : ∃ other ∈ room.batch env, other.id = event.id ∧ failures.hits other = false
    · rw [if_pos marked]
      obtain ⟨other, inBatch, sameId, spared⟩ := marked
      constructor
      · rintro ⟨isMarked, pending⟩
        obtain ⟨before, -, rfl⟩ := Option.map_eq_some_iff.mp isMarked
        cases pending
      · rintro ⟨⟨found, -⟩, stays⟩
        have present := (mem_pending.mp (mem_batch inBatch)).1
        obtain rfl : other = event := Option.some.inj (present.symm.trans (sameId ▸ found))
        rw [stays inBatch] at spared
        cases spared
    · rw [if_neg marked]
      refine (and_iff_left fun inBatch => ?_).symm
      by_contra spared
      exact marked ⟨event, inBatch, rfl, Bool.eq_false_iff.mpr spared⟩
  marked event inBatch spared := by
    rw [pollDuring_eq, find_servedAll, if_pos ⟨event, inBatch, rfl, spared⟩, (mem_pending.mp (mem_batch inBatch)).1]
    rfl
  enqueued := by rw [pollDuring_eq, queue_servedAll]

end Mailroom

/-! ## Call after call -/

section

variable {Row : Type} (createdAt : Row → Nat) (id : Row → Uuid)

/-- Older rows first, and those of one instant by rank. -/
def Older (rank : Uuid → Nat) (left right : Row) : Prop :=
  createdAt left < createdAt right ∨ (createdAt left = createdAt right ∧ rank (id left) ≤ rank (id right))

instance (rank : Uuid → Nat) : DecidableRel (Older createdAt id rank) :=
  fun _ _ => inferInstanceAs (Decidable (_ ∨ (_ ∧ _)))

instance (rank : Uuid → Nat) : Std.Total (Older createdAt id rank) where
  total left right := by unfold Older; omega

instance (rank : Uuid → Nat) : IsTrans Row (Older createdAt id rank) where
  trans left middle right := by unfold Older; omega

variable {createdAt id} {rank : Uuid → Nat} {left right : Row}

theorem Older.sameTime (first : Older createdAt id rank left right) (second : Older createdAt id rank right left) :
    createdAt left = createdAt right := by
  unfold Older at first second
  omega

theorem Older.lt (older : Older createdAt id rank left right) (differ : createdAt left ≠ createdAt right) :
    createdAt left < createdAt right := by
  unfold Older at older
  omega

end

theorem pairwise_oldestFirst (rank : Uuid → Nat) (rows : List OutboxEvent) :
    (oldestFirst rank rows).Pairwise (Older OutboxEvent.createdAt OutboxEvent.id rank) :=
  List.pairwise_insertionSort (Older OutboxEvent.createdAt OutboxEvent.id rank) rows

namespace Mailroom

variable {env : Environment} {room : Mailroom} {ordered : List OutboxEvent}

/-- Where every event has an instant of its own, a call selects the first twenty. -/
theorem batch_eq (complete : ordered.Perm room.db.pending.rows)
    (inOrder : ordered.Pairwise fun left right => left.createdAt < right.createdAt) : room.batch env = ordered.take 20 := by
  have sorted : oldestFirst env.rank room.db.pending.rows = ordered := by
    refine List.Perm.eq_of_pairwise (fun left right inSorted inOrdered first second => ?_)
      (pairwise_oldestFirst env.rank _) (inOrder.imp fun earlier => .inl earlier)
      ((List.perm_insertionSort _ _).trans complete.symm)
    have present : left ∈ ordered := complete.mem_iff.mpr ((List.mem_insertionSort _).mp inSorted)
    have apart : (ordered.map OutboxEvent.createdAt).Nodup := List.pairwise_map.mpr (inOrder.imp Nat.ne_of_lt)
    exact List.inj_on_of_nodup_map apart present inOrdered (first.sameTime second)
  exact congrArg (List.take 20) sorted

theorem nodup_pending (db : Database) : db.pending.rows.Nodup := List.Nodup.of_map _ db.pending.nodup

/-- One call takes the first twenty events. -/
theorem poll_takes (env : Environment) (complete : ordered.Perm room.db.pending.rows)
    (inOrder : ordered.Pairwise fun left right => left.createdAt < right.createdAt) :
    (ordered.drop 20).Perm (room.poll env).2.db.pending.rows ∧
      (room.poll env).2.queue = room.queue ++ ((ordered.take 20).filter isEmail).map OutboxEvent.payload := by
  have takes : room.batch env = ordered.take 20 := batch_eq complete inOrder
  have alone := failsAlone .none env room
  have distinct : ordered.Nodup := complete.nodup_iff.mpr (nodup_pending room.db)
  rw [poll_eq]
  constructor
  · refine (List.perm_ext_iff_of_nodup (distinct.sublist (List.drop_sublist _ _)) (nodup_pending _)).mpr fun event => ?_
    rw [alone.stays, ← complete.mem_iff, takes]
    have apart := List.disjoint_take_drop distinct (Nat.le_refl 20)
    constructor
    · intro later
      exact ⟨List.mem_of_mem_drop later, fun earlier => absurd later (apart earlier)⟩
    · rintro ⟨present, stays⟩
      rw [← List.take_append_drop 20 ordered] at present
      refine (List.mem_append.mp present).resolve_left fun earlier => ?_
      have hit := stays earlier
      rw [PollFailures.hits, PollFailures.refusesMail] at hit
      simp [PollFailures.none] at hit
  · have mails : PollFailures.none.mails = isEmail := by
      funext event
      simp [PollFailures.mails, PollFailures.refusesMail, PollFailures.none]
    rw [alone.enqueued, takes, mails]

/-- The events that are left after some calls, and the mails that these have enqueued. -/
theorem polled_takes (envs : Nat → Environment) (complete : ordered.Perm room.db.pending.rows)
    (inOrder : ordered.Pairwise fun left right => left.createdAt < right.createdAt) (calls : Nat) :
    (ordered.drop (20 * calls)).Perm (room.polled envs calls).db.pending.rows ∧
      (room.polled envs calls).queue =
        room.queue ++ ((ordered.take (20 * calls)).filter isEmail).map OutboxEvent.payload := by
  induction calls with
  | zero => exact ⟨complete, (List.append_nil _).symm⟩
  | succ calls ih =>
    obtain ⟨left, sent⟩ := ih
    obtain ⟨drops, takes⟩ := poll_takes (envs calls) left (inOrder.sublist (List.drop_sublist _ _))
    rw [polled, Nat.mul_succ]
    constructor
    · rw [← List.drop_drop]
      exact drops
    · rw [takes, sent, List.append_assoc, ← List.map_append, ← List.filter_append, List.take_add]

theorem drains (envs : Nat → Environment) (complete : ordered.Perm room.db.pending.rows)
    (inOrder : ordered.Pairwise fun left right => left.createdAt < right.createdAt) : room.Drains envs ordered := by
  have after := polled_takes envs complete inOrder
  have enough : ordered.length ≤ 20 * ((ordered.length + 19) / 20) := by omega
  have sent : (room.polled envs ((ordered.length + 19) / 20)).queue =
      room.queue ++ (ordered.filter isEmail).map OutboxEvent.payload := by
    rw [(after _).2, List.take_of_length_le enough]
  refine ⟨complete, inOrder, fun calls => ?_, fun calls => ?_, ?_, sent, fun everyMail => ?_⟩
  · rw [← (after calls).1.length_eq, List.length_drop]
  · rw [poll_eq, (failsAlone .none _ _).returns]
  · have none := (after ((ordered.length + 19) / 20)).1
    rw [List.drop_eq_nil_of_le enough] at none
    exact none.symm.eq_nil
  · have all : ordered.filter isEmail = ordered :=
      List.filter_eq_self.mpr fun event inOrdered => decide_eq_true (everyMail event inOrdered)
    rw [sent, all]

end Mailroom

/-- Polling drains the outbox in the order of creation, twenty events at a time, and an event whose statements fail
    keeps nothing from the others. -/
theorem pollingDrains (room : Mailroom) (distinct : (room.db.pending.rows.map OutboxEvent.createdAt).Nodup) :
    (∃ ordered, ∀ envs, room.Drains envs ordered) ∧ ∀ failures env, room.FailsAlone failures env := by
  let ordered := oldestFirst (fun _ => 0) room.db.pending.rows
  have complete : ordered.Perm room.db.pending.rows := List.perm_insertionSort _ _
  have apart : ordered.Pairwise fun left right => left.createdAt ≠ right.createdAt :=
    List.pairwise_map.mp ((complete.map OutboxEvent.createdAt).nodup_iff.mpr distinct)
  have inOrder : ordered.Pairwise fun left right => left.createdAt < right.createdAt :=
    (apart.and (pairwise_oldestFirst _ _)).imp fun both => both.2.lt both.1
  exact ⟨⟨ordered, fun envs => Mailroom.drains envs complete inOrder⟩,
    fun failures env => Mailroom.failsAlone failures env room⟩

namespace SmallShop

def secondEvent : OutboxEvent := ⟨7, "send-email", ⟨"owner@corner.example", "Another order for Corner", ""⟩, false, 1, none⟩

/-- The newer event stands first in the table. -/
def twoMails : Mailroom := ⟨{ Database.empty with outboxEvents := (Table.singleton secondEvent).put outboxEvent }, []⟩

end SmallShop

theorem pollingDrains_smallShop :
    (∃ ordered, ∀ envs, SmallShop.twoMails.Drains envs ordered) ∧
      ∀ failures env, SmallShop.twoMails.FailsAlone failures env :=
  pollingDrains SmallShop.twoMails (by decide)

end StoreSaas
