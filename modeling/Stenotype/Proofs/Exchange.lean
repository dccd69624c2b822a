import Stenotype.Exchange
import Stenotype.Proofs.Run

/-!
# What an exchange delivers

However the steps of senders, service and receiver interleave, the service is one formatter that
handles the commands in the order in which they entered the queue, and delivers its edits in that
order, empty ones apart. Every run ends. While the receiver is there it ends when all has been
handled; after it has left the service stops at the first edit that it cannot deliver.
-/

set_option autoImplicit false

namespace Stenotype

namespace Formatter

def deliveries (f : Formatter) (cs : List ServiceCommand) : List (List Instruction) :=
  (f.edits cs).filter fun edit => !edit.isEmpty

theorem run_concat (f : Formatter) (cs : List ServiceCommand) (c : ServiceCommand) :
    f.run (cs ++ [c]) = (f.run cs).after c := by
  rw [run, List.foldl_append]
  rfl

theorem edits_concat (f : Formatter) (cs : List ServiceCommand) (c : ServiceCommand) :
    f.edits (cs ++ [c]) = f.edits cs ++ [(f.run cs).edit c] := by
  induction cs generalizing f with
  | nil => rfl
  | cons d cs ih =>
    rw [List.cons_append, edits, ih, edits, List.cons_append]
    rfl

theorem deliveries_concat (f : Formatter) (cs : List ServiceCommand) (c : ServiceCommand) :
    f.deliveries (cs ++ [c]) =
      f.deliveries cs ++ if ((f.run cs).edit c).isEmpty then [] else [(f.run cs).edit c] := by
  rw [deliveries, edits_concat, List.filter_append, deliveries]
  cases h : ((f.run cs).edit c).isEmpty <;> simp [h]

end Formatter

theorem Service.perform_eq (s : Service) (c : ServiceCommand) :
    s.perform c =
      ({ s with
          formatter := s.formatter.after c
          status := s.status.afterCommand (s.formatter.after c) },
        s.formatter.edit c) := by
  cases c <;> rfl

namespace Task

def inHand : Task → List ServiceCommand
  | formatting r => [.format r]
  | _ => []

def undelivered : Task → List (List Instruction)
  | delivering edit => [edit]
  | _ => []

def phase : Task → Phase
  | formatting _ => .formatting
  | ended => .stopped
  | _ => .idle

def work : Task → Nat
  | ended => 0
  | stopping => 1
  | waiting => 2
  | delivering _ => 4
  | formatting _ => 5

theorem isRunning_owing (edit : List Instruction) : (owing edit).isRunning = true := by
  cases edit <;> rfl

theorem work_owing_le (edit : List Instruction) : (owing edit).work ≤ 4 := by
  cases edit <;> simp [owing, work]

theorem phase_owing (edit : List Instruction) : (owing edit).phase = .idle := by
  cases edit <;> rfl

theorem eq_of_owing {edit edit' : List Instruction} (h : owing edit = delivering edit') :
    edit' = edit ∧ edit ≠ [] := by
  cases edit with
  | nil => cases h
  | cons i is =>
    cases h
    exact ⟨rfl, List.cons_ne_nil i is⟩

theorem inHand_owing (edit : List Instruction) : (owing edit).inHand = [] := by
  cases edit <;> rfl

theorem undelivered_owing (edit : List Instruction) :
    (owing edit).undelivered = if edit.isEmpty then [] else [edit] := by
  cases edit <;> rfl

end Task

namespace Exchange
variable {n : Nat} {commandRoom editRoom : Nat} {f : Formatter}
  {lists : Fin n → List ServiceCommand} {x y : Exchange n}

def madeBy (i : Fin n) (submissions : List (Fin n × ServiceCommand)) : List ServiceCommand :=
  (submissions.filter fun s => s.1 = i).map Prod.snd

theorem madeBy_concat (i j : Fin n) (submissions : List (Fin n × ServiceCommand))
    (c : ServiceCommand) :
    madeBy j (submissions ++ [(i, c)]) = madeBy j submissions ++ if i = j then [c] else [] := by
  rw [madeBy, List.filter_append, List.map_append, madeBy]
  by_cases h : i = j <;> simp [h]

/-- What a sender has submitted, with success and then without, and what it has left to submit. -/
def ledger (x : Exchange n) (i : Fin n) : List ServiceCommand :=
  madeBy i x.accepted ++ madeBy i x.refused ++ (x.senders i).getD []

theorem ledger_submit {i : Fin n} {c : ServiceCommand} {cs : List ServiceCommand}
    (next : x.senders i = some (c :: cs)) (none_refused : x.refused = []) (j : Fin n) :
    ledger { x.setSender i (some cs) with
      queue := x.queue ++ [c], accepted := x.accepted ++ [(i, c)] } j = x.ledger j := by
  simp only [ledger, setSender, madeBy_concat, none_refused]
  by_cases h : i = j
  · subst h
    simp [next, madeBy]
  · simp [h, Function.update_of_ne (Ne.symm h), madeBy]

theorem ledger_refuse {i : Fin n} {c : ServiceCommand} {cs : List ServiceCommand}
    (next : x.senders i = some (c :: cs)) (j : Fin n) :
    ledger { x.setSender i (some cs) with refused := x.refused ++ [(i, c)] } j = x.ledger j := by
  simp only [ledger, setSender, madeBy_concat]
  by_cases h : i = j
  · subst h
    simp [next]
  · simp [h, Function.update_of_ne (Ne.symm h)]

theorem ledger_hangUp {i : Fin n} (done : x.senders i = some []) (j : Fin n) :
    ledger (x.setSender i none) j = x.ledger j := by
  simp only [ledger, setSender]
  by_cases h : i = j
  · subst h
    simp [done]
  · simp [Function.update_of_ne (Ne.symm h)]

/-- All senders have hung up, and all that they submitted is handled and delivered. -/
structure HasClosed (f : Formatter) (lists : Fin n → List ServiceCommand) (x : Exchange n) :
    Prop where
  errorMessage : x.service.status.errorMessage = none
  quiet : ∀ i, x.senders i = none
  accepted : ∀ i, madeBy i x.accepted = lists i
  handled : x.handled = x.accepted.map Prod.snd
  delivered : x.service.delivered = f.deliveries x.handled

/-- The receiver has left, and the newest command that was handled is the first one with an edit that
could not be delivered. -/
structure HasFailed (f : Formatter) (x : Exchange n) : Prop where
  errorMessage : x.service.status.errorMessage = some "output receiver dropped".toList
  unheard : x.service.isHeard = false
  lost : ∃ cs c, x.handled = cs ++ [c] ∧ (f.run cs).edit c ≠ [] ∧
    x.service.delivered = f.deliveries cs

/-- A service that takes commands owes nothing but what it is about. -/
structure IsUpToDate (f : Formatter) (x : Exchange n) : Prop where
  errorMessage : x.service.status.errorMessage = none
  accepted : x.accepted.map Prod.snd = x.handled ++ x.task.inHand ++ x.queue
  delivered : x.service.delivered ++ x.task.undelivered = f.deliveries x.handled
  owed : ∀ edit, x.task = .delivering edit → edit ≠ [] ∧ ∃ cs c,
    x.handled = cs ++ [c] ∧ (f.run cs).edit c = edit ∧ x.service.delivered = f.deliveries cs

/-- The service is the formatter `f` after the commands that it has handled, and they are the first
of those that entered the queue. -/
structure Follows (f : Formatter) (lists : Fin n → List ServiceCommand) (x : Exchange n) : Prop where
  ledger : ∀ i, x.ledger i = lists i
  none_refused : x.task ≠ .ended → x.refused = []
  handled : x.handled <+: x.accepted.map Prod.snd
  formatter : x.service.formatter = f.run x.handled
  phase : x.service.status.phase = x.task.phase
  requests : x.service.status.requests = x.handled.length
  snapshot : x.handled ≠ [] →
    x.service.status.renderedText = (f.run x.handled).rendered.text ∧
      x.service.status.historyLength = (f.run x.handled).history.entries.length
  received : x.received ++ x.output <+: x.service.delivered
  in_transit : x.service.isHeard = true → x.received ++ x.output = x.service.delivered
  running : x.task.isRunning = true → x.IsUpToDate f
  outcome : x.task.isRunning = false → x.HasClosed f lists ∨ x.HasFailed f

namespace Follows

theorem start (f : Formatter) (lists : Fin n → List ServiceCommand) :
    Follows f lists (start f lists) where
  ledger _ := rfl
  none_refused _ := rfl
  handled := List.nil_prefix
  formatter := rfl
  phase := rfl
  requests := rfl
  snapshot h := absurd rfl h
  received := List.nil_prefix
  in_transit _ := rfl
  running _ := ⟨rfl, rfl, rfl, fun _ h => nomatch h⟩
  outcome h := nomatch h

theorem leave (h : Follows f lists x) : Follows f lists x.leave :=
  { h with
    received := by
      refine List.IsPrefix.trans ?_ h.received
      exact (List.prefix_append_right_inj _).2 List.nil_prefix
    in_transit := fun heard => nomatch heard
    running := fun runs => { h.running runs with }
    outcome := fun ended => (h.outcome ended).imp (fun closed => { closed with })
      fun failed => { failed with unheard := rfl } }

theorem submit (h : Follows f lists x) {i : Fin n} {c : ServiceCommand} {cs : List ServiceCommand}
    (next : x.senders i = some (c :: cs)) (taken : x.task ≠ .ended) :
    Follows f lists { x.setSender i (some cs) with
      queue := x.queue ++ [c], accepted := x.accepted ++ [(i, c)] } :=
  { h with
    ledger := fun j => (ledger_submit next (h.none_refused taken) j).trans (h.ledger j)
    handled := by
      rw [List.map_append]
      exact h.handled.trans (List.prefix_append _ _)
    running := fun runs =>
      { h.running runs with
        accepted := by
          rw [List.map_append, (h.running runs).accepted, List.append_assoc]
          rfl }
    outcome := fun ended => (h.outcome ended).imp
      (fun closed => absurd (closed.quiet i) (by simp [next])) fun failed => { failed with } }

theorem refuse (h : Follows f lists x) {i : Fin n} {c : ServiceCommand} {cs : List ServiceCommand}
    (next : x.senders i = some (c :: cs)) (ended : x.task = .ended) :
    Follows f lists { x.setSender i (some cs) with refused := x.refused ++ [(i, c)] } :=
  { h with
    ledger := fun j => (ledger_refuse next j).trans (h.ledger j)
    none_refused := fun wrong => absurd ended wrong
    running := fun runs => { h.running runs with }
    outcome := fun ended => (h.outcome ended).imp
      (fun closed => absurd (closed.quiet i) (by simp [next])) fun failed => { failed with } }

theorem hangUp (h : Follows f lists x) {i : Fin n} (done : x.senders i = some []) :
    Follows f lists (x.setSender i none) :=
  { h with
    ledger := fun j => (ledger_hangUp done j).trans (h.ledger j)
    running := fun runs => { h.running runs with }
    outcome := fun ended => (h.outcome ended).imp
      (fun closed => absurd (closed.quiet i) (by simp [done])) fun failed => { failed with } }

theorem take (h : Follows f lists x) {r : Request} {cs : List ServiceCommand}
    (idle : x.task = .waiting) (next : x.queue = .format r :: cs) :
    Follows f lists { x.beginRequest r with queue := cs } := by
  have before := h.running (by rw [idle]; rfl)
  have accepted := before.accepted
  have delivered := before.delivered
  rw [idle, next] at accepted
  rw [idle] at delivered
  exact
    { h with
      phase := rfl
      none_refused := fun _ => h.none_refused (by simp [idle])
      running := fun _ =>
        { before with
          accepted := by simpa [Task.inHand, beginRequest] using accepted
          delivered := delivered
          owed := fun _ wrong => nomatch wrong }
      outcome := fun wrong => nomatch wrong }

theorem complete (h : Follows f lists x) (runs : x.task.isRunning = true) {c : ServiceCommand}
    {rest : List ServiceCommand} (undelivered : x.task.undelivered = [])
    (owed : x.task.inHand ++ x.queue = c :: rest) :
    Follows f lists { x.complete c with queue := rest } := by
  have before := h.running runs
  have accepted := before.accepted
  have delivered := before.delivered
  rw [List.append_assoc, owed] at accepted
  rw [undelivered, List.append_nil] at delivered
  have edit : x.service.formatter.edit c = (f.run x.handled).edit c := by rw [h.formatter]
  have after : x.service.formatter.after c = f.run (x.handled ++ [c]) := by
    rw [Formatter.run_concat, h.formatter]
  have taken : x.task ≠ .ended := by
    intro ended
    rw [ended] at runs
    cases runs
  rw [Exchange.complete, Service.perform_eq, edit, after]
  refine
    { ledger := h.ledger, formatter := rfl, received := h.received, in_transit := h.in_transit
      none_refused := fun _ => h.none_refused taken
      handled := ?_, phase := ?_, requests := ?_, snapshot := fun _ => ⟨rfl, rfl⟩
      running := fun _ => ?_, outcome := fun ended => ?_ }
  · change x.handled ++ [c] <+: x.accepted.map Prod.snd
    rw [accepted]
    exact (List.prefix_append_right_inj _).2 ⟨rest, rfl⟩
  · exact (Task.phase_owing _).symm
  · change x.service.status.requests + 1 = (x.handled ++ [c]).length
    rw [h.requests, List.length_append, List.length_singleton]
  · refine ⟨rfl, ?_, ?_, fun edit' owes => ?_⟩
    · simpa [Task.inHand_owing] using accepted
    · change x.service.delivered ++ (Task.owing _).undelivered = f.deliveries (x.handled ++ [c])
      rw [Task.undelivered_owing, delivered, Formatter.deliveries_concat]
    · obtain ⟨rfl, ink⟩ := Task.eq_of_owing owes
      exact ⟨ink, x.handled, c, rfl, rfl, delivered⟩
  · exact absurd ended (by simp [Task.isRunning_owing])

theorem deliver (h : Follows f lists x) {edit : List Instruction}
    (ready : x.task = .delivering edit) (heard : x.service.isHeard = true) :
    Follows f lists { x with
      task := .waiting, service := x.service.deliver edit, output := x.output ++ [edit] } := by
  have before := h.running (by rw [ready]; rfl)
  have all : x.received ++ (x.output ++ [edit]) = x.service.delivered ++ [edit] := by
    rw [← List.append_assoc, h.in_transit heard]
  exact
    { h with
      phase := by
        change x.service.status.phase = .idle
        rw [h.phase, ready]
        rfl
      none_refused := fun _ => h.none_refused (by simp [ready])
      received := all ▸ List.prefix_rfl
      in_transit := fun _ => all
      running := fun _ =>
        { errorMessage := before.errorMessage
          accepted := by simpa [ready, Task.inHand] using before.accepted
          delivered := by simpa [ready, Task.undelivered, Service.deliver] using before.delivered
          owed := fun _ wrong => nomatch wrong }
      outcome := fun wrong => nomatch wrong }

theorem fail (h : Follows f lists x) {edit : List Instruction}
    (ready : x.task = .delivering edit) (unheard : x.service.isHeard = false) :
    Follows f lists { x with task := .stopping, service := x.service.reportUnheard } := by
  obtain ⟨ink, cs, c, handled, made, delivered⟩ := (h.running (by rw [ready]; rfl)).owed edit ready
  exact
    { h with
      phase := by
        change x.service.status.phase = .idle
        rw [h.phase, ready]
        rfl
      none_refused := fun _ => h.none_refused (by simp [ready])
      running := fun wrong => nomatch wrong
      outcome := fun _ => .inr ⟨rfl, unheard, cs, c, handled, made ▸ ink, delivered⟩ }

theorem close (h : Follows f lists x) (idle : x.task = .waiting) (empty : x.queue = [])
    (quiet : ∀ i, x.senders i = none) : Follows f lists { x with task := .stopping } := by
  have before := h.running (by rw [idle]; rfl)
  have none_refused := h.none_refused (by simp [idle])
  have accepted := before.accepted
  have delivered := before.delivered
  simp only [idle, empty, Task.inHand, Task.undelivered, List.append_nil] at accepted delivered
  exact
    { h with
      phase := by
        change x.service.status.phase = .idle
        rw [h.phase, idle]
        rfl
      none_refused := fun _ => none_refused
      running := fun wrong => nomatch wrong
      outcome := fun _ => .inl
        { errorMessage := before.errorMessage
          quiet := quiet
          accepted := fun i => by
            simpa [Exchange.ledger, none_refused, quiet i, madeBy] using h.ledger i
          handled := accepted.symm
          delivered := delivered } }

theorem stop (h : Follows f lists x) (leaving : x.task = .stopping) :
    Follows f lists { x with task := .ended, service := x.service.stop, queue := [] } :=
  { h with
    phase := rfl
    none_refused := fun wrong => absurd rfl wrong
    running := fun wrong => nomatch wrong
    outcome := fun _ => (h.outcome (by rw [leaving]; rfl)).imp (fun closed => { closed with })
      fun failed => { failed with } }

theorem receive (h : Follows f lists x) {edit : List Instruction}
    {rest : List (List Instruction)} (next : x.output = edit :: rest) :
    Follows f lists { x with output := rest, received := x.received ++ [edit] } := by
  have same : (x.received ++ [edit]) ++ rest = x.received ++ x.output := by
    rw [List.append_assoc, next]
    rfl
  exact
    { h with
      received := by
        change (x.received ++ [edit]) ++ rest <+: x.service.delivered
        rw [same]
        exact h.received
      in_transit := fun heard => same.trans (h.in_transit heard)
      running := fun runs => { h.running runs with }
      outcome := fun ended => (h.outcome ended).imp (fun closed => { closed with })
        fun failed => { failed with } }

theorem step (h : Follows f lists x) (next : Step commandRoom editRoom x y) :
    Follows f lists y := by
  cases next with
  | submit next taken _ => exact h.submit next taken
  | refuse next ended => exact h.refuse next ended
  | hangUp done => exact h.hangUp done
  | take idle next => exact h.take idle next
  | format busy => exact h.complete (by rw [busy]; rfl) (by rw [busy]; rfl) (by rw [busy]; rfl)
  | reset idle next => exact h.complete (by rw [idle]; rfl) (by rw [idle]; rfl) (by rw [idle]; exact next)
  | deliver ready heard _ => exact h.deliver ready heard
  | fail ready unheard => exact h.fail ready unheard
  | close idle empty quiet => exact h.close idle empty quiet
  | stop leaving => exact h.stop leaving
  | receive next => exact h.receive next

end Follows

theorem Reached.follows (h : Reached commandRoom editRoom f lists x) : Follows f lists x := by
  induction h with
  | start => exact Follows.start f lists
  | step _ next ih => exact ih.step next
  | leave _ ih => exact ih.leave

theorem Step.handled_eq (next : Step commandRoom editRoom x y) (ended : x.task.isRunning = false) :
    y.handled = x.handled ∧ y.task.isRunning = false := by
  cases next with
  | submit | refuse | hangUp | receive => exact ⟨rfl, ended⟩
  | take idle | reset idle | close idle =>
    rw [idle] at ended
    cases ended
  | format busy =>
    rw [busy] at ended
    cases ended
  | deliver ready | fail ready =>
    rw [ready] at ended
    cases ended
  | stop => exact ⟨rfl, rfl⟩

def senderWork : Option (List ServiceCommand) → Nat
  | none => 0
  | some cs => 5 * cs.length + 1

/-- No less than the number of steps that are left. -/
def work (x : Exchange n) : Nat :=
  (∑ i, senderWork (x.senders i)) + 4 * x.queue.length + x.task.work + x.output.length

theorem sum_senderWork_update (senders : Fin n → Option (List ServiceCommand)) (i : Fin n)
    (s : Option (List ServiceCommand)) :
    (∑ j, senderWork (Function.update senders i s j)) + senderWork (senders i) =
      (∑ j, senderWork (senders j)) + senderWork s := by
  have others : ∑ j ∈ Finset.univ.erase i, senderWork (Function.update senders i s j) =
      ∑ j ∈ Finset.univ.erase i, senderWork (senders j) :=
    Finset.sum_congr rfl fun j other => by
      rw [Function.update_of_ne (Finset.ne_of_mem_erase other)]
  have before := Finset.add_sum_erase _ (fun j => senderWork (senders j)) (Finset.mem_univ i)
  have after := Finset.add_sum_erase _ (fun j => senderWork (Function.update senders i s j))
    (Finset.mem_univ i)
  rw [others, Function.update_self] at after
  omega

theorem work_setSender (x : Exchange n) (i : Fin n) (s : Option (List ServiceCommand)) :
    (x.setSender i s).work + senderWork (x.senders i) = x.work + senderWork s := by
  have senders := sum_senderWork_update x.senders i s
  simp only [work, setSender]
  omega

theorem Step.work_lt (next : Step commandRoom editRoom x y) : y.work < x.work := by
  cases next with
  | @submit i c cs next =>
    have sender := work_setSender x i (some cs)
    have queue : work { x.setSender i (some cs) with
        queue := x.queue ++ [c], accepted := x.accepted ++ [(i, c)] } =
          (x.setSender i (some cs)).work + 4 := by
      simp only [work, setSender, List.length_append, List.length_singleton]
      omega
    simp only [next, senderWork, List.length_cons] at sender
    omega
  | @refuse i c cs next =>
    have sender := work_setSender x i (some cs)
    have same : work { x.setSender i (some cs) with refused := x.refused ++ [(i, c)] } =
        (x.setSender i (some cs)).work := rfl
    simp only [next, senderWork, List.length_cons] at sender
    omega
  | @hangUp i done =>
    have sender := work_setSender x i none
    simp only [done, senderWork, List.length_nil] at sender
    omega
  | take idle next =>
    simp only [work, beginRequest, idle, next, Task.work, List.length_cons]
    omega
  | @format r busy =>
    have owes := Task.work_owing_le (x.service.perform (.format r)).2
    have task : x.task.work = 5 := by rw [busy]; rfl
    simp only [work, complete]
    omega
  | reset idle next =>
    have owes := Task.work_owing_le (x.service.perform .reset).2
    have task : x.task.work = 2 := by rw [idle]; rfl
    simp only [work, complete, next, List.length_cons]
    omega
  | deliver ready =>
    simp only [work, ready, Task.work, List.length_append, List.length_singleton]
    omega
  | fail ready =>
    simp only [work, ready, Task.work]
    omega
  | close idle =>
    simp only [work, idle, Task.work]
    omega
  | stop leaving =>
    simp only [work, leaving, Task.work, List.length_nil]
    omega
  | receive next =>
    simp only [work, next, List.length_cons]
    omega

/-- Where nobody can take a step, all is over. -/
theorem over_of_stuck (command : 0 < commandRoom) (edit : 0 < editRoom)
    (stuck : ∀ y, ¬ Step commandRoom editRoom x y) :
    x.task = .ended ∧ x.output = [] ∧ ∀ i, x.senders i = none := by
  have output : x.output = [] := by
    cases h : x.output with
    | nil => rfl
    | cons edit rest => exact absurd (.receive h) (stuck _)
  have hasRoom : x.output.length < editRoom := by simpa [output] using edit
  have done : ∀ i, x.senders i ≠ some [] := fun i h => stuck _ (.hangUp h)
  have ended : x.task = .ended := by
    cases task : x.task with
    | waiting =>
      cases queue : x.queue with
      | cons c cs =>
        cases c with
        | format r => exact absurd (.take task queue) (stuck _)
        | reset => exact absurd (.reset task queue) (stuck _)
      | nil =>
        -- the queue has room, so a sender with something left could submit it
        have quiet : ∀ i, x.senders i = none := fun i => by
          cases sender : x.senders i with
          | none => rfl
          | some cs =>
            cases cs with
            | nil => exact absurd sender (done i)
            | cons c cs =>
              exact absurd (.submit sender (by simp [task]) (by simpa [queue] using command))
                (stuck _)
        exact absurd (.close task queue quiet) (stuck _)
    | formatting r => exact absurd (.format task) (stuck _)
    | delivering edit =>
      cases heard : x.service.isHeard with
      | true => exact absurd (.deliver task heard hasRoom) (stuck _)
      | false => exact absurd (.fail task heard) (stuck _)
    | stopping => exact absurd (.stop task) (stuck _)
    | ended => rfl
  refine ⟨ended, output, fun i => ?_⟩
  cases sender : x.senders i with
  | none => rfl
  | some cs =>
    cases cs with
    | nil => exact absurd sender (done i)
    | cons c cs => exact absurd (.refuse sender ended) (stuck _)

/-- Every run follows one formatter and comes to an end. While the receiver is there, the end is that
all commands are handled and all edits received. Once an edit cannot be delivered no more commands
are handled. -/
theorem exchange_follows_formatter (command : 0 < commandRoom) (edit : 0 < editRoom)
    (reached : Reached commandRoom editRoom f lists x) :
    x.Follows f lists ∧
    (∀ y, Step commandRoom editRoom x y →
      y.work < x.work ∧ (x.task.isRunning = false → y.handled = x.handled)) ∧
    ((∀ y, ¬ Step commandRoom editRoom x y) →
      x.task = .ended ∧ x.service.status.phase = .stopped ∧
      (x.service.isHeard = true →
        x.HasClosed f lists ∧ x.received = f.deliveries (x.accepted.map Prod.snd))) := by
  have follows := reached.follows
  refine ⟨follows, fun y next => ⟨next.work_lt, fun ended => (next.handled_eq ended).1⟩, ?_⟩
  intro stuck
  obtain ⟨ended, output, -⟩ := over_of_stuck command edit stuck
  have phase : x.service.status.phase = .stopped := by rw [follows.phase, ended]; rfl
  refine ⟨ended, phase, fun heard => ?_⟩
  have closed : x.HasClosed f lists := by
    refine (follows.outcome (by rw [ended]; rfl)).resolve_right fun failed => ?_
    simp [failed.unheard] at heard
  have received := follows.in_transit heard
  rw [output, List.append_nil, closed.delivered, closed.handled] at received
  exact ⟨closed, received⟩

def wordAndReset : Fin 2 → List ServiceCommand
  | 0 => [.format { new := [.ofEnglish "one"] }]
  | 1 => [.reset]

/-- The receiver leaves before the word is formatted. The reset, which was accepted, is not handled. -/
theorem exchange_follows_formatter_unheard :
    ∃ x : Exchange 2, Reached 1 1 (.new {} .empty) wordAndReset x ∧
      x.handled = wordAndReset 0 ∧ x.accepted.map Prod.snd = wordAndReset 0 ++ wordAndReset 1 ∧
      x.HasFailed (.new {} .empty) := by
  have edit : ((Service.ofFormatter (.new {} .empty)).perform
      (.format { new := [.ofEnglish "one"] })).2 = [.string " one".toList] := by
    decide +kernel
  have begun : Reached 1 1 (.new {} .empty) wordAndReset _ := .start
  have submitted := begun.step (.submit (i := 0) rfl nofun (by decide))
  have left := submitted.leave
  have taken := left.step (.take rfl rfl)
  have both := taken.step (.submit (i := 1) rfl nofun (by decide))
  have formatted := both.step (.format rfl)
  have failed := formatted.step (.fail (congrArg Task.owing edit) rfl)
  have follows := (exchange_follows_formatter (by decide) (by decide) failed).1
  refine ⟨_, failed, rfl, rfl, (follows.outcome rfl).resolve_left fun closed => ?_⟩
  cases closed.errorMessage

end Exchange
end Stenotype
