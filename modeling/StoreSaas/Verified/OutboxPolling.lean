import StoreSaas.Library.Protocol
import StoreSaas.Services.OutboxProcessor

/-! # Polling the outbox

A pass works through the events it has selected; its phase is what is left of them,
whether the first one has been enqueued already, the ids it has enqueued so far and the
events it selected.
Nothing claims an event in the database, so two passes may work on the same one; when no
pass selects an event that another one still works on, every event is enqueued once
(`enqueuedOnce_of_notOverlapping`).
-/

namespace StoreSaas

/-! ## What a pass does -/

structure PollPhase where
  selected : Bool
  remaining : List OutboxEvent
  /-- The first of the remaining events has been enqueued. -/
  headSent : Bool
  sent : List Uuid
  /-- All the events of the pass. -/
  taken : List OutboxEvent
  deriving DecidableEq

def isEmail (event : OutboxEvent) : Bool := event.eventType = "send-email"

namespace PollPhase

def initial : PollPhase := ⟨false, [], false, [], []⟩

def select (phase : PollPhase) (events : List OutboxEvent) : PollPhase := ⟨true, events, false, phase.sent, events⟩

/-- The pass goes on with the next event. -/
def advance (phase : PollPhase) : PollPhase := ⟨phase.selected, phase.remaining.tail, false, phase.sent, phase.taken⟩

def send (phase : PollPhase) : PollPhase :=
  ⟨phase.selected, phase.remaining, true, (phase.remaining.head?.map OutboxEvent.id).toList ++ phase.sent,
    phase.taken⟩

/-- The events that are still to be enqueued. -/
def unsent (phase : PollPhase) : List OutboxEvent :=
  if phase.headSent then phase.remaining.tail else phase.remaining

end PollPhase

def pollProtocol : AutoProtocol statements ApiError PollPhase where
  initial := .initial
  allows phase
    | .outbox (.findPending take _) => take = OutboxProcessor.batchSize ∧ phase.selected = false
    | .enqueueMail message => ∃ event rest, phase.remaining = event :: rest ∧ phase.headSent = false ∧
        isEmail event = true ∧ message = event.payload
    | .outbox (.markProcessed id _) => ∃ event rest, phase.remaining = event :: rest ∧ id = event.id ∧
        phase.headSent = isEmail event
    | _ => False
  next phase
    | .outbox (.findPending _ _), .ok events => phase.select events
    | .enqueueMail _, .ok _ => phase.send
    | .enqueueMail _, .error _ | .outbox (.markProcessed _ _), _ => phase.advance
    | _, _ => phase

namespace OutboxProcessor

/-- The pass goes on with the events that remain. -/
abbrev GoesOn (rest : List OutboxEvent) (phase : PollPhase) : Prop := ∃ sent taken, phase = ⟨true, rest, false, sent, taken⟩

theorem keeps_deliver (env : Environment) (event : OutboxEvent) (rest : List OutboxEvent) (sent : List Uuid)
    (taken : List OutboxEvent) :
    (deliver env event).Keeps pollProtocol (fun phase _ => GoesOn rest phase)
      ⟨true, event :: rest, false, sent, taken⟩ := by
  have marks : ∀ sent, (Tx.outbox (.markProcessed event.id env.now)).Keeps pollProtocol
      (fun phase _ => GoesOn rest phase) ⟨true, event :: rest, isEmail event, sent, taken⟩ :=
    fun sent => Program.keeps_perform ⟨event, rest, rfl, rfl, rfl⟩ fun _ => ⟨sent, taken, rfl⟩
  unfold deliver enqueue
  by_cases email : event.eventType = "send-email"
  · have isMail : isEmail event = true := decide_eq_true email
    rw [if_pos email]
    refine Program.keeps_perform_bind ⟨event, rest, rfl, rfl, isMail, rfl⟩ (fun _ => ⟨sent, taken, rfl⟩) fun _ => ?_
    have enqueued := marks (event.id :: sent)
    rwa [isMail] at enqueued
  · have notMail : isEmail event = false := decide_eq_false email
    rw [if_neg email]
    have skipped := marks sent
    rwa [notMail] at skipped

/-- A round does not throw. -/
theorem keeps_process (env : Environment) (event : OutboxEvent) (rest : List OutboxEvent) (sent : List Uuid)
    (taken : List OutboxEvent) :
    (process env event).Keeps pollProtocol (fun phase result => GoesOn rest phase ∧ result = .ok ())
      ⟨true, event :: rest, false, sent, taken⟩ :=
  (keeps_deliver env event rest sent taken).handle fun _ result ended => by
    cases result <;> exact ⟨ended, rfl⟩

theorem keeps_processAll (env : Environment) (rest : List OutboxEvent) (sent : List Uuid)
    (taken : List OutboxEvent) :
    (processAll env rest).Keeps pollProtocol (fun phase _ => phase.remaining = [])
      ⟨true, rest, false, sent, taken⟩ := by
  induction rest generalizing sent taken with
  | nil => exact rfl
  | cons event rest ih =>
    refine (keeps_process env event rest sent taken).handle fun phase result ended => ?_
    obtain ⟨⟨sent, taken, rfl⟩, rfl⟩ := ended
    exact ih sent taken

/-- Nothing is left when a pass ends. -/
theorem keeps_pollOnce (env : Environment) :
    (pollOnce env).Keeps pollProtocol (fun phase _ => phase.remaining = []) .initial := by
  refine Program.keeps_perform_bind ⟨rfl, rfl⟩ (fun _ => rfl) fun pending => ?_
  refine (keeps_processAll env pending [] pending).handle fun _ result ended => ?_
  cases result <;> exact ended

end OutboxProcessor

/-! ## The events in the database -/

/-- An event but for whether it has been processed. -/
def OutboxEvent.content (event : OutboxEvent) : OutboxEvent := { event with processed := false, processedAt := none }

@[simp] theorem OutboxEvent.content_markProcessed (event : OutboxEvent) (now : Timestamp) :
    (event.markProcessed now).content = event.content := rfl

theorem OutboxEvent.isEmail_of_content {left right : OutboxEvent} (same : left.content = right.content) :
    isEmail left = isEmail right := by
  have sameType : isEmail left.content = isEmail right.content := congrArg isEmail same
  exact sameType

namespace Database

variable {db : Database} {take : Nat} {rank : Uuid → Nat}

def isProcessed (db : Database) (id : Uuid) : Bool := (db.outboxEvents.find id).any OutboxEvent.processed

theorem mem_pendingEvents {event : OutboxEvent} (pending : event ∈ db.pendingEvents take rank) :
    db.outboxEvents.find event.id = some event ∧ event.processed = false := by
  have selected := List.mem_filter.mp ((List.mem_insertionSort _).mp (List.mem_of_mem_take pending))
  exact ⟨Table.find_of_mem selected.1, of_decide_eq_true selected.2⟩

theorem nodup_pendingEvents : ((db.pendingEvents take rank).map OutboxEvent.id).Nodup := by
  have sorted := (db.outboxEvents.restrict fun event => event.processed = false).nodup
  have ordered : ((oldestFirst rank (db.outboxEvents.rows.filter fun event => event.processed = false)).map
      OutboxEvent.id).Nodup := ((List.perm_insertionSort _ _).map _).nodup_iff.mpr sorted
  exact ordered.sublist ((List.take_sublist _ _).map _)

def markProcessed (db : Database) (id : Uuid) (now : Timestamp) : Database :=
  match db.outboxEvents.find id with
  | none => db
  | some event => db.write (.outboxEvent (.put (event.markProcessed now)))

theorem executeOn_markProcessed (db : Database) (id : Uuid) (now : Timestamp) :
    shop.executeOn (.outbox (.markProcessed id now)) db = (.ok (), db.markProcessed id now) := by
  simp only [Engine.executeOn, shop, Statement.execute, OutboxStatement.execute, markProcessed]
  cases db.outboxEvents.find id <;> rfl

theorem find_markProcessed (id : Uuid) (now : Timestamp) (other : Uuid) :
    (db.markProcessed id now).outboxEvents.find other =
      if other = id then (db.outboxEvents.find id).map fun event => event.markProcessed now
      else db.outboxEvents.find other := by
  unfold markProcessed
  cases found : db.outboxEvents.find id with
  | none =>
    by_cases same : other = id
    · rw [if_pos same, same, found]
      rfl
    · rw [if_neg same]
  | some event =>
    have found_id : event.id = id := Table.key_of_find found
    have isId : (event.markProcessed now).id = id := found_id
    simp only [write, Table.write]
    rw [Table.find_put, isId]
    by_cases same : other = id
    · rw [if_pos same, if_pos same]
      rfl
    · rw [if_neg same, if_neg same]

theorem content_markProcessed (id : Uuid) (now : Timestamp) (other : Uuid) :
    ((db.markProcessed id now).outboxEvents.find other).map OutboxEvent.content =
      (db.outboxEvents.find other).map OutboxEvent.content := by
  rw [find_markProcessed]
  by_cases same : other = id
  · rw [if_pos same, same, Option.map_map]
    rfl
  · rw [if_neg same]

end Database

/-- Events are only marked. -/
structure Database.Marks (before after : Database) : Prop where
  stays : ∀ id, before.isProcessed id = true → after.isProcessed id = true
  contents : ∀ id, (after.outboxEvents.find id).map OutboxEvent.content =
    (before.outboxEvents.find id).map OutboxEvent.content

theorem Database.Marks.refl (db : Database) : db.Marks db := ⟨fun _ marked => marked, fun _ => rfl⟩

theorem Database.isProcessed_markProcessed {db : Database} {id : Uuid} {now : Timestamp} {other : Uuid} :
    (db.markProcessed id now).isProcessed other =
      if other = id then (db.outboxEvents.find id).isSome else db.isProcessed other := by
  rw [isProcessed, find_markProcessed]
  by_cases same : other = id
  · rw [if_pos same, if_pos same]
    cases db.outboxEvents.find id <;> rfl
  · rw [if_neg same, if_neg same, isProcessed]

theorem Database.marks_markProcessed (db : Database) (id : Uuid) (now : Timestamp) :
    db.Marks (db.markProcessed id now) := by
  refine ⟨fun other marked => ?_, content_markProcessed id now⟩
  rw [isProcessed_markProcessed]
  by_cases same : other = id
  · rw [if_pos same, ← same]
    exact Option.isSome_of_any marked
  · rw [if_neg same]
    exact marked

/-! ## Passes that do not overlap -/

/-- The ids a pass still works on. -/
def PollPhase.claims (phase : PollPhase) : List Uuid := phase.remaining.map OutboxEvent.id

/-- One pass: it has enqueued each event once, and marks what it has enqueued. -/
structure PollPhase.Sound (db : Database) (phase : PollPhase) : Prop where
  idle : phase.selected = false → phase = .initial
  nodup : phase.claims.Nodup
  sentNodup : phase.sent.Nodup
  unsent : ∀ event ∈ phase.unsent, event.id ∉ phase.sent
  marked : ∀ id ∈ phase.sent, db.isProcessed id = true ∨
    phase.headSent = true ∧ phase.remaining.head?.map OutboxEvent.id = some id
  claimed : ∀ event ∈ phase.remaining,
    (db.outboxEvents.find event.id).map OutboxEvent.content = some event.content
  headSent : phase.headSent = true → ∃ event rest, phase.remaining = event :: rest ∧ event.id ∈ phase.sent
  taken : ∀ event ∈ phase.taken, isEmail event = true → event.id ∈ phase.sent ∨ event ∈ phase.unsent

/-- Two passes have nothing in common. -/
structure PollPhase.Apart (left right : PollPhase) : Prop where
  claims : ∀ id ∈ left.claims, id ∉ right.claims
  sent : ∀ id ∈ left.sent, id ∉ right.sent
  unsent : ∀ event ∈ left.unsent, event.id ∉ right.sent
  unsent' : ∀ event ∈ right.unsent, event.id ∉ left.sent

theorem PollPhase.Apart.symm {left right : PollPhase} (apart : left.Apart right) : right.Apart left :=
  ⟨fun id inRight inLeft => apart.claims id inLeft inRight, fun id inRight inLeft => apart.sent id inLeft inRight,
    apart.unsent', apart.unsent⟩

theorem PollPhase.Sound.mono {db after : Database} {phase : PollPhase} (sound : phase.Sound db)
    (marks : db.Marks after) : phase.Sound after :=
  { sound with
    marked := fun id sent => (sound.marked id sent).imp_left (marks.stays id)
    claimed := fun event present => (marks.contents event.id).trans (sound.claimed event present) }

section Passes

variable {ι : Type} {start db after : Database} {phases : ι → PollPhase}

structure Passes (start db : Database) (phases : ι → PollPhase) : Prop where
  sound : ∀ i, (phases i).Sound db
  apart : ∀ i j, i ≠ j → (phases i).Apart (phases j)
  marks : start.Marks db
  /-- What has been marked since, has been enqueued. -/
  markedSent : ∀ event ∈ start.outboxEvents.rows, isEmail event = true → event.processed = false →
    db.isProcessed event.id = true → ∃ i, event.id ∈ (phases i).sent

namespace Passes

theorem initial (start : Database) : Passes start start fun _ : ι => PollPhase.initial where
  sound _ :=
    { idle := fun _ => rfl
      nodup := List.nodup_nil
      sentNodup := List.nodup_nil
      unsent := fun _ present => nomatch present
      marked := fun _ sent => nomatch sent
      claimed := fun _ present => nomatch present
      headSent := fun isSent => nomatch isSent
      taken := fun _ present => nomatch present }
  apart _ _ _ := ⟨fun _ present => (nomatch present), fun _ present => (nomatch present),
    fun _ present => (nomatch present), fun _ present => (nomatch present)⟩
  marks := .refl start
  markedSent event present _ pending marked := by
    rw [Database.isProcessed, Table.find_of_mem present, Option.any_some, pending] at marked
    cases marked

variable [DecidableEq ι] (passes : Passes start db phases) {i : ι}

include passes

/-- One pass goes on. -/
theorem update {phase : PollPhase} (sound : phase.Sound after) (apart : ∀ j, j ≠ i → phase.Apart (phases j))
    (marks : db.Marks after) (grows : ∀ id ∈ (phases i).sent, id ∈ phase.sent)
    (newlyMarked : ∀ event ∈ start.outboxEvents.rows, isEmail event = true → after.isProcessed event.id = true →
      db.isProcessed event.id = true ∨ event.id ∈ phase.sent) :
    Passes start after (Function.update phases i phase) where
  sound j := by
    by_cases same : j = i
    · subst same; rw [Function.update_self]; exact sound
    · rw [Function.update_of_ne same]; exact (passes.sound j).mono marks
  apart j k differ := by
    by_cases isJ : j = i
    · subst isJ; rw [Function.update_self, Function.update_of_ne differ.symm]; exact apart k differ.symm
    · by_cases isK : k = i
      · subst isK; rw [Function.update_self, Function.update_of_ne isJ]; exact (apart j isJ).symm
      · rw [Function.update_of_ne isJ, Function.update_of_ne isK]; exact passes.apart j k differ
  marks := ⟨fun id marked => marks.stays id (passes.marks.stays id marked),
    fun id => (marks.contents id).trans (passes.marks.contents id)⟩
  markedSent event present email pending marked := by
    rcases newlyMarked event present email marked with before | sentNow
    · obtain ⟨j, sent⟩ := passes.markedSent event present email pending before
      refine ⟨j, ?_⟩
      by_cases same : j = i
      · subst same; rw [Function.update_self]; exact grows _ sent
      · rw [Function.update_of_ne same]; exact sent
    · exact ⟨i, by rw [Function.update_self]; exact sentNow⟩

/-- A pass selects events that no pass works on. -/
theorem select {take : Nat} {rank : Uuid → Nat} (notSelected : (phases i).selected = false)
    (free : ∀ j, ∀ event ∈ db.pendingEvents take rank, event.id ∉ (phases j).claims) :
    Passes start db (Function.update phases i ((phases i).select (db.pendingEvents take rank))) := by
  have isIdle := (passes.sound i).idle notSelected
  have noneSent : ((phases i).select (db.pendingEvents take rank)).sent = [] := by
    rw [isIdle]; rfl
  -- An event that was enqueued is marked by now, or some pass works on it: it is not selected.
  have neverSent : ∀ event ∈ db.pendingEvents take rank, ∀ j, event.id ∉ (phases j).sent := by
    intro event pending j sent
    obtain ⟨found, unprocessed⟩ := Database.mem_pendingEvents pending
    rcases (passes.sound j).marked _ sent with marked | ⟨-, isHead⟩
    · rw [Database.isProcessed, found, Option.any_some, unprocessed] at marked
      cases marked
    · obtain ⟨head, isFirst, isEvent⟩ := Option.map_eq_some_iff.mp isHead
      exact free j event pending (isEvent ▸ List.mem_map_of_mem (List.mem_of_head? isFirst))
  refine passes.update ?_ (fun j _ => ?_) (.refl db) ?_ fun _ _ _ marked => .inl marked
  · exact
      { idle := fun unselected => nomatch unselected
        nodup := Database.nodup_pendingEvents
        sentNodup := by rw [noneSent]; exact List.nodup_nil
        unsent := fun _ _ => by rw [noneSent]; exact List.not_mem_nil
        marked := fun id sent => by rw [noneSent] at sent; cases sent
        claimed := fun event pending => by rw [(Database.mem_pendingEvents pending).1]; rfl
        headSent := fun isSent => nomatch isSent
        taken := fun _ pending _ => .inr pending }
  · refine ⟨fun id claimed => ?_, fun id sent => ?_, fun event pending => neverSent event pending j, fun _ _ => ?_⟩
    · obtain ⟨event, pending, rfl⟩ := List.mem_map.mp claimed
      exact free j event pending
    · rw [noneSent] at sent
      cases sent
    · rw [noneSent]
      exact List.not_mem_nil
  · rw [isIdle]
    exact fun _ sent => nomatch sent

variable {event : OutboxEvent} {rest : List OutboxEvent}

/-- A pass enqueues the event it works on. -/
theorem send (works : (phases i).remaining = event :: rest) (notSent : (phases i).headSent = false) :
    Passes start db (Function.update phases i (phases i).send) := by
  have sound := passes.sound i
  have isSend : (phases i).send = 
      ⟨(phases i).selected, event :: rest, true, event.id :: (phases i).sent, (phases i).taken⟩ := by
    simp only [PollPhase.send, works, List.head?_cons, Option.map_some, Option.toList_some, List.singleton_append]
  have unsentAll : (phases i).unsent = event :: rest := by rw [PollPhase.unsent, notSent, works]; rfl
  have nodup := sound.nodup
  rw [PollPhase.claims, works, List.map_cons, List.nodup_cons] at nodup
  rw [isSend]
  refine passes.update ?_ (fun j differs => ?_) (.refl db) (fun id sent => List.mem_cons_of_mem _ sent)
    fun _ _ _ marked => .inl marked
  · exact
      { idle := fun unselected => by
          rw [sound.idle unselected] at works
          cases works
        nodup := List.nodup_cons.mpr nodup
        sentNodup := List.nodup_cons.mpr ⟨sound.unsent event (unsentAll ▸ List.mem_cons_self), sound.sentNodup⟩
        unsent := fun other inRest sent => by
          rcases List.mem_cons.mp sent with isHead | before
          · exact nodup.1 (isHead ▸ List.mem_map_of_mem inRest)
          · exact sound.unsent other (unsentAll ▸ List.mem_cons_of_mem _ inRest) before
        marked := fun id sent => by
          rcases List.mem_cons.mp sent with isHead | before
          · exact .inr ⟨rfl, congrArg some isHead.symm⟩
          · refine .inl ((sound.marked id before).resolve_right fun isHead => ?_)
            rw [notSent] at isHead
            exact nomatch isHead.1
        claimed := fun other present => sound.claimed other (works ▸ present)
        headSent := fun _ => ⟨event, rest, rfl, List.mem_cons_self⟩
        taken := fun other isTaken isMail => by
          rcases sound.taken other isTaken isMail with before | unsent
          · exact .inl (List.mem_cons_of_mem _ before)
          · rw [unsentAll] at unsent
            refine (List.mem_cons.mp unsent).imp_left fun isHead => ?_
            rw [isHead]
            exact List.mem_cons_self }
  · have apart := passes.apart i j differs.symm
    refine ⟨fun id claimed => apart.claims id ?_, fun id sent => ?_, fun other inRest => ?_, fun other unsent sent => ?_⟩
    · rw [PollPhase.claims, works]
      exact claimed
    · rcases List.mem_cons.mp sent with rfl | before
      · exact apart.unsent event (unsentAll ▸ List.mem_cons_self)
      · exact apart.sent id before
    · exact apart.unsent other (unsentAll ▸ List.mem_cons_of_mem _ inRest)
    · rcases List.mem_cons.mp sent with isHead | before
      · refine apart.claims event.id ?_ (isHead ▸ List.mem_map_of_mem ?_)
        · rw [PollPhase.claims, works]
          exact List.mem_cons_self
        · unfold PollPhase.unsent at unsent
          split at unsent
          next => exact List.mem_of_mem_tail unsent
          next => exact unsent
      · exact apart.unsent' other unsent before

/-- A pass marks the event it works on, and goes on with the next one. -/
theorem mark (works : (phases i).remaining = event :: rest) (email : (phases i).headSent = isEmail event)
    (now : Timestamp) :
    Passes start (db.markProcessed event.id now) (Function.update phases i (phases i).advance) := by
  have sound := passes.sound i
  have isAdvance : (phases i).advance = ⟨(phases i).selected, rest, false, (phases i).sent, (phases i).taken⟩ := by
    simp only [PollPhase.advance, works, List.tail_cons]
  have found : (db.outboxEvents.find event.id).isSome = true := by
    have claimed := sound.claimed event (works ▸ List.mem_cons_self)
    obtain ⟨row, isRow, -⟩ := Option.map_eq_some_iff.mp claimed
    rw [isRow]
    rfl
  have marksEvent : (db.markProcessed event.id now).isProcessed event.id = true := by
    rw [Database.isProcessed_markProcessed, if_pos rfl]
    exact found
  have stillUnsent : ∀ other ∈ rest, other ∈ (phases i).unsent := by
    intro other inRest
    rw [PollPhase.unsent, works]
    split
    · exact inRest
    · exact List.mem_cons_of_mem _ inRest
  have nodup := sound.nodup
  rw [PollPhase.claims, works, List.map_cons, List.nodup_cons] at nodup
  rw [isAdvance]
  refine passes.update ?_ (fun j differs => ?_) (Database.marks_markProcessed db event.id now) (fun _ sent => sent)
    fun other present isMail marked => ?_
  · exact
      { idle := fun unselected => by
          rw [sound.idle unselected] at works
          cases works
        nodup := nodup.2
        sentNodup := sound.sentNodup
        unsent := fun other inRest => sound.unsent other (stillUnsent other inRest)
        marked := fun id sent => by
          rcases sound.marked id sent with marked | ⟨-, isHead⟩
          · exact .inl ((Database.marks_markProcessed db event.id now).stays id marked)
          · rw [works, List.head?_cons, Option.map_some, Option.some.injEq] at isHead
            exact .inl (isHead ▸ marksEvent)
        claimed := fun other inRest => by
          rw [Database.content_markProcessed]
          exact sound.claimed other (works ▸ List.mem_cons_of_mem _ inRest)
        headSent := fun isSent => nomatch isSent
        taken := fun other isTaken isMail => by
          refine (sound.taken other isTaken isMail).imp_right fun unsent => ?_
          rw [PollPhase.unsent, works, email] at unsent
          split at unsent
          next => exact unsent
          next notMail =>
            refine (List.mem_cons.mp unsent).resolve_left fun isHead => notMail ?_
            rw [← isHead]
            exact isMail }
  · have apart := passes.apart i j differs.symm
    refine ⟨fun id claimed => apart.claims id ?_, apart.sent, fun other inRest => apart.unsent other (stillUnsent other inRest),
      apart.unsent'⟩
    rw [PollPhase.claims, works]
    exact List.mem_cons_of_mem _ claimed
  · rw [Database.isProcessed_markProcessed] at marked
    split at marked
    next isEvent =>
      -- The event has been enqueued before it is marked, as it is an e-mail.
      have sameContent : other.content = event.content := by
        have ofStart := passes.marks.contents other.id
        rw [Table.find_of_mem present, isEvent, sound.claimed event (works ▸ List.mem_cons_self)] at ofStart
        exact (Option.some.inj ofStart).symm
      have isSent : (phases i).headSent = true := by
        rw [email, ← OutboxEvent.isEmail_of_content sameContent]
        exact isMail
      obtain ⟨head, tail, remaining, sent⟩ := sound.headSent isSent
      rw [works] at remaining
      cases remaining
      exact .inr (isEvent ▸ sent)
    next => exact .inl marked

end Passes

theorem passes_executeOn [DecidableEq ι] (passes : Passes start db phases) {i : ι} {op : Statement}
    (allowed : pollProtocol.allows (phases i) op)
    (free : ∀ take rank, op = .outbox (.findPending take rank) →
      ∀ j, ∀ event ∈ db.pendingEvents take rank, event.id ∉ (phases j).claims) :
    Passes start (shop.executeOn op db).2
      (Function.update phases i (pollProtocol.next (phases i) op (shop.executeOn op db).1)) := by
  cases op with
  | outbox statement =>
    cases statement with
    | findPending take rank => exact passes.select allowed.2 (free take rank rfl)
    | markProcessed id now =>
      obtain ⟨event, rest, works, rfl, email⟩ := allowed
      rw [Database.executeOn_markProcessed]
      exact passes.mark works email now
    | findStore | findUser | insert => exact allowed.elim
  | enqueueMail message =>
    obtain ⟨event, rest, works, notSent, -, -⟩ := allowed
    exact passes.send works notSent
  | setCurrentStore | product | category | order | user | billing | idempotency | store | audit => exact allowed.elim

/-! ## The system -/

section Steps

variable [Fintype ι]

abbrev PollSystem (ι : Type) : Type := System ι Database RowKey DbWrite statements ApiError Nat

namespace PollSystem

def ofPasses (env : ι → Environment) (db : Database) : PollSystem ι :=
  System.start db fun i => (OutboxProcessor.pollOnce (env i)).autocommit

def pollPhase (system : PollSystem ι) : ι → PollPhase := system.phase fun _ => pollProtocol.lift

/-- The ids of the events that a pass has enqueued. -/
def sentBy (system : PollSystem ι) (i : ι) : List Uuid := (system.pollPhase i).sent

/-- The e-mails among the events that a pass has selected. -/
def takenBy (system : PollSystem ι) (i : ι) : List OutboxEvent := (system.pollPhase i).taken.filter isEmail

/-- Every event is enqueued at most once, and exactly once by the time it is marked or the pass that selected it has
    ended. -/
structure EnqueuedOnce (start : Database) (system : PollSystem ι) : Prop where
  perPass : ∀ i, (system.sentBy i).Nodup
  onePass : ∀ i j id, id ∈ system.sentBy i → id ∈ system.sentBy j → i = j
  markedSent : ∀ event ∈ start.outboxEvents.rows, isEmail event = true → event.processed = false →
    system.db.isProcessed event.id = true → ∃ i, event.id ∈ system.sentBy i
  endedSent : ∀ i, (system.thread i).program.ended = true → ∀ event ∈ system.takenBy i, event.id ∈ system.sentBy i

/-- The step selects an event that another pass has selected and not marked yet. -/
def selectsClaimed (source : PollSystem ι) : Act ι ApiError → Bool
  | .run i =>
    match (source.thread i).program with
    | .call (.auto (.outbox (.findPending take rank))) _ =>
      decide (∃ j, ∃ event ∈ source.db.pendingEvents take rank, event.id ∈ (source.pollPhase j).claims)
    | _ => false
  | .fail _ _ | .crash _ => false

def succeeds : Act ι ApiError → Bool
  | .run _ => true
  | .fail _ _ | .crash _ => false

end PollSystem

variable [DecidableEq ι] {env : ι → Environment}

omit [Fintype ι] [DecidableEq ι] in
theorem PollSystem.remaining_of_ended {system : PollSystem ι} {i : ι}
    (follows : system.Follows (fun _ => pollProtocol.lift) fun _ phase _ => phase.remaining = [])
    (ended : (system.thread i).program.ended = true) : (system.pollPhase i).remaining = [] := by
  have obeys := follows i
  cases isProgram : (system.thread i).program with
  | done value | throw error => rw [isProgram] at obeys; exact obeys
  | call op resume => rw [isProgram] at ended; cases ended

open Transition

/-- However many passes run at once: if nothing fails and no pass selects an event that another one still
    works on, every event is enqueued once. -/
theorem enqueuedOnce_of_notOverlapping {start : Database} {run : List (Act ι ApiError × PollSystem ι)}
    (isRun : Run shop.Steps (PollSystem.ofPasses env start) run)
    (succeeds : EachStep (fun _ act _ => PollSystem.succeeds act = true) (PollSystem.ofPasses env start) run)
    (apart : EachStep (fun source act _ => source.selectsClaimed act = false) (PollSystem.ofPasses env start) run) :
    EachState (PollSystem.EnqueuedOnce start) (PollSystem.ofPasses env start) run := by
  let Invariant (system : PollSystem ι) : Prop :=
    system.Follows (fun _ => pollProtocol.lift) (fun _ phase _ => phase.remaining = []) ∧ Passes start system.db system.pollPhase
  have atStart : Invariant (PollSystem.ofPasses env start) :=
    ⟨Engine.follows_start fun i => (OutboxProcessor.keeps_pollOnce (env i)).autocommit, .initial start⟩
  suffices kept : EachState Invariant (PollSystem.ofPasses env start) run from
    kept.imp fun system invariant =>
      { perPass := fun i => (invariant.2.sound i).sentNodup
        onePass := fun i j id inI inJ => by
          by_contra differs
          exact (invariant.2.apart i j differs).sent id inI inJ
        markedSent := invariant.2.markedSent
        endedSent := fun i ended event isTaken => by
          obtain ⟨isTaken, isMail⟩ := List.mem_filter.mp isTaken
          have finished := PollSystem.remaining_of_ended invariant.1 ended
          refine ((invariant.2.sound i).taken event isTaken isMail).resolve_right fun unsent => ?_
          rw [PollPhase.unsent, finished, List.tail_nil, ite_self] at unsent
          cases unsent }
  refine eachState_of_invariant ?_ atStart isRun (succeeds.and apart)
  rintro source act target ⟨follows, passes⟩ stepped ⟨goesWell, free⟩
  obtain ⟨stillFollows, ⟨i, op, resume, rfl, calls, allowed, after, phase⟩ | ⟨i, _, _, rfl, _⟩ | ⟨i, rfl, _⟩⟩ :=
    Engine.autoStep_cases follows stepped
  · refine ⟨stillFollows, ?_⟩
    rw [PollSystem.pollPhase, phase, after]
    refine passes_executeOn passes allowed fun take rank isSelect j event pending claimed => ?_
    subst isSelect
    simp only [PollSystem.selectsClaimed, calls, decide_eq_false_iff_not] at free
    exact free ⟨j, event, pending, claimed⟩
  · cases goesWell
  · cases goesWell

end Steps

end Passes

/-! ## A small outbox -/

namespace SmallShop

def outboxEvent : OutboxEvent := ⟨6, "send-email", ⟨"owner@corner.example", "New order for Corner", ""⟩, false, 0, none⟩

/-- One event that waits to be enqueued. -/
def outbox : Database := { Database.empty with outboxEvents := ⟨[outboxEvent], List.nodup_singleton _⟩ }

def polls (_ : Bool) : Environment := ⟨1, fun _ => 0, fun _ => 0⟩

/-- One pass after the other. -/
def pollThenPoll : List (Act Bool ApiError) := List.replicate 3 (.run false) ++ [.run true]

/-- Both select the event before one of them marks it. -/
def pollBoth : List (Act Bool ApiError) := [.run false, .run true, .run false, .run true]

end SmallShop

theorem enqueuedOnce_smallShop :
    Transition.EachState (PollSystem.EnqueuedOnce SmallShop.outbox) (PollSystem.ofPasses SmallShop.polls SmallShop.outbox)
      ((shop.trace (PollSystem.ofPasses SmallShop.polls SmallShop.outbox) SmallShop.pollThenPoll).get (by decide +kernel)) :=
  enqueuedOnce_of_notOverlapping (shop.run_get_trace _) (by decide +kernel) (by decide +kernel)

/-- Two passes that select the same event both enqueue it. -/
theorem not_enqueuedOnce :
    ¬ ∀ (env : Bool → Environment) (start : Database) (run : List (Act Bool ApiError × PollSystem Bool)),
      Transition.Run shop.Steps (PollSystem.ofPasses env start) run →
      Transition.EachStep (fun _ act _ => PollSystem.succeeds act = true) (PollSystem.ofPasses env start) run →
      PollSystem.EnqueuedOnce start (Transition.final (PollSystem.ofPasses env start) run) := by
  intro enqueuedOnce
  have once := enqueuedOnce SmallShop.polls SmallShop.outbox
    ((shop.trace (PollSystem.ofPasses SmallShop.polls SmallShop.outbox) SmallShop.pollBoth).get (by decide +kernel))
    (shop.run_get_trace _) (by decide +kernel)
  have same := once.onePass false true 6 (by decide +kernel) (by decide +kernel)
  cases same

end StoreSaas
