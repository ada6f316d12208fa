import DocStore.Proofs.Client.Operations
import DocStore.Proofs.Query.Fields

namespace DocStore

namespace Service

-- A request by which documents can change: one that is posted to mutate a dataset of some version,
-- and that carries the token if there is one.
structure MayChange (token : Option String) (r : Request) : Prop where
  method : r.method = "POST"
  path   : ∃ version dataset : List Char, version ≠ [] ∧ '/' ∉ version ∧ '/' ∉ dataset ∧
    r.url.path = '/' :: version ++ "/mutate/".toList ++ dataset
  token  : ∀ t, token = some t → r.authorization = some ("Bearer " ++ t)

-- What sending a request comes to: a queued answer comes before any other, and leaves the documents
-- as they are.
structure Sends (s : Service) (r : Request) (sent : Service × Except Fault Response) : Prop where
  token    : sent.1.token = s.token
  stack    : sent.1.stack = s.stack
  record   : sent.1.record = s.record ++ [r]
  queued   : ∀ queued rest, s.queue = queued :: rest →
    sent.1.queue = rest ∧ sent.1.documents = s.documents ∧ sent.2 = queued.result
  unqueued : s.queue = [] →
    sent.1.queue = [] ∧ (sent.1.documents = s.documents ∨ MayChange s.token r)

theorem path_of_endpoint? {path : List Char} (h : endpoint? path = some .mutate) :
    ∃ version dataset : List Char, version ≠ [] ∧ '/' ∉ version ∧ '/' ∉ dataset ∧
      path = '/' :: version ++ "/mutate/".toList ++ dataset := by
  have hi : ['/'].intercalate (path.splitOn '/') = path := List.intercalate_splitOn '/'
  have hm {part : List Char} : part ∈ path.splitOn '/' → '/' ∉ part :=
    Text.not_mem_of_mem_splitOn
  unfold endpoint? at h
  split at h
  case h_1 c cs name dataset hp =>
    rw [hp] at hi hm
    refine ⟨c :: cs, dataset, by simp, hm (by simp), hm (by simp), ?_⟩
    have hn : name = "mutate".toList := by
      split at h
      case isTrue => cases h
      case isFalse =>
        split at h
        case isTrue hn => exact hn
        case isFalse => cases h
    simp [← hi, hn]
  case h_2 => cases h

theorem authorization_of_authorizes {token : Option String} {r : Request}
    (h : authorizes token r = true) (t : String) (ht : token = some t) :
    r.authorization = some ("Bearer " ++ t) := by
  simpa [authorizes, ht] using h

-- Refusals, queries and wrong methods change nothing.
theorem documents_answer (token : Option String) (stack : Stack) (r : Request)
    (documents : Documents) :
    (answer token stack r documents).1 = documents ∨ MayChange token r := by
  unfold answer
  split
  case isTrue ha =>
    split
    case h_1 => exact .inl rfl
    case h_2 => split <;> exact .inl rfl
    case h_3 he =>
      split
      case isTrue hm =>
        exact .inr ⟨hm, path_of_endpoint? he, authorization_of_authorizes ha⟩
      case isFalse => exact .inl rfl
  case isFalse => exact .inl rfl

theorem sends_send (s : Service) (r : Request) : Sends s r (s.send r) := by
  cases hq : s.queue
  case nil =>
    rw [send_of_queue_nil hq]
    exact ⟨rfl, rfl, rfl, by simp [hq], fun _ => ⟨hq, documents_answer s.token s.stack r _⟩⟩
  case cons queued rest =>
    rw [send_of_queue_cons hq]
    refine ⟨rfl, rfl, rfl, ?_, by simp [hq]⟩
    intro queued' rest' he
    cases hq.symm.trans he
    exact ⟨rfl, rfl, rfl⟩

end Service

namespace Bench

def Step.queued? : Step → Option QueuedAnswer
  | .enqueue queued => some queued
  | _ => none

def request? (b : Bench) : Step → Option Request
  | .call name call => (b.clients.get? name).bind fun c => c.request? call
  | .request draft => (Request.prepare draft).toOption
  | _ => none

-- How a step is served. Where no request reaches the service, it stays as it is but for what is
-- queued. Where one does, the rest of the bench stays as it is, and the report is up to the answer.
inductive Serves (b : Bench) (step : Step) : Prop
  | unasked (hr : b.request? step = none)
    (hs : (b.step step).2.service = step.queued?.elim b.service b.service.enqueue)
  | asked (r : Request) (report : Stack → Except Service.Fault Response → Report)
    (hr : b.request? step = some r)
    (hb : ∀ s : Service, { b with service := s }.step step =
      (report s.stack (s.send r).2, { b with service := (s.send r).1 }))
    (hs : Service.Sends b.service r (b.service.send r))

theorem serves_call (b : Bench) (name : String) (call : Call) : b.Serves (.call name call) := by
  cases hc : b.clients.get? name
  case none => exact .unasked (by simp [request?, hc]) (by simp [step, hc, Step.queued?])
  case some c =>
    rcases c.runCall_request call with ⟨hn, hs⟩ | ⟨r, report, hr, hs⟩
    case inl =>
      refine .unasked (by simp [request?, hc, hn]) ?_
      simp [step, hc, hs, Step.queued?]
    case inr =>
      refine .asked r report (by simp [request?, hc, hr]) (fun s => ?_) (Service.sends_send ..)
      simp [step, hc, hs, Entries.put_of_get? hc]

theorem serves_request (b : Bench) (draft : Request.Draft) : b.Serves (.request draft) := by
  cases hp : Request.prepare draft
  case error =>
    refine .unasked (by simp [request?, hp, Except.toOption]) ?_
    simp [step, request, hp, Step.queued?]
  case ok r =>
    refine .asked r (fun _ result => .response (result.mapError .fault))
      (by simp [request?, hp, Except.toOption]) (fun s => ?_) (Service.sends_send ..)
    simp [step, request, hp]

-- Nothing else happens to a service, unless it is told to forget its past.
theorem serves (b : Bench) {step : Step} (h : step ≠ .clear) : b.Serves step := by
  cases step
  case enter => exact .unasked rfl rfl
  case call name call => exact serves_call b name call
  case enqueue => exact .unasked rfl rfl
  case request draft => exact serves_request b draft
  case clear => exact absurd rfl h

-- The requests that reach the service in a run, each with the queued answer that it takes, if one
-- is there.
def served (b : Bench) : List Step → List (Request × Option QueuedAnswer)
  | [] => []
  | step :: steps =>
    ((b.request? step).map fun r => (r, b.service.queue.head?)).toList ++
      served (b.step step).2 steps

end Bench

namespace Service

-- What lies between two states of a service if some requests were served and some answers queued in
-- the meantime.
structure Traffic (s s' : Service) (served : List (Request × Option QueuedAnswer))
    (queued : List QueuedAnswer) : Prop where
  token     : s'.token = s.token
  stack     : s'.stack = s.stack
  record    : s'.record = s.record ++ served.map Prod.fst
  queue     : s.queue ++ queued = served.filterMap Prod.snd ++ s'.queue
  documents : (∀ e ∈ served, ¬MayChange s.token e.1) → s'.documents = s.documents

namespace Traffic

variable {s s₁ s₂ : Service} {served served' : List (Request × Option QueuedAnswer)}
  {queued queued' : List QueuedAnswer}

theorem refl (s : Service) : Traffic s s [] [] where
  token := rfl
  stack := rfl
  record := by simp
  queue := by simp
  documents _ := rfl

theorem trans (h : Traffic s s₁ served queued) (h' : Traffic s₁ s₂ served' queued') :
    Traffic s s₂ (served ++ served') (queued ++ queued') where
  token := h'.token.trans h.token
  stack := h'.stack.trans h.stack
  record := by simp [h'.record, h.record]
  queue := calc
    s.queue ++ (queued ++ queued') = served.filterMap Prod.snd ++ (s₁.queue ++ queued') := by
      rw [← List.append_assoc, h.queue, List.append_assoc]
    _ = (served ++ served').filterMap Prod.snd ++ s₂.queue := by
      rw [h'.queue, ← List.append_assoc, List.filterMap_append]
  documents hn := by
    rw [List.forall_mem_append] at hn
    rw [h'.documents (h.token ▸ hn.right), h.documents hn.left]

theorem enqueue (s : Service) (queued : Option QueuedAnswer) :
    Traffic s (queued.elim s s.enqueue) [] queued.toList := by
  cases queued
  case none => exact refl s
  case some => exact ⟨rfl, rfl, by simp [Service.enqueue], rfl, fun _ => rfl⟩

theorem send {r : Request} {sent : Service × Except Fault Response} (h : Sends s r sent) :
    Traffic s sent.1 [(r, s.queue.head?)] [] := by
  cases hq : s.queue
  case nil =>
    have ⟨hn, hd⟩ := h.unqueued hq
    exact ⟨h.token, h.stack, h.record, by simp [hq, hn],
      fun hm => hd.resolve_right <| by simpa using hm⟩
  case cons queued rest =>
    have ⟨hr, hd, _⟩ := h.queued queued rest hq
    exact ⟨h.token, h.stack, h.record, by simp [hq, hr], fun _ => hd⟩

end Traffic

end Service

namespace Bench

open Service (Traffic)

theorem traffic_step (b : Bench) {step : Step} (h : step ≠ .clear) :
    Traffic b.service (b.step step).2.service
      ((b.request? step).map fun r => (r, b.service.queue.head?)).toList step.queued?.toList := by
  cases b.serves h
  case unasked hr hs =>
    rw [hr, hs]
    exact .enqueue b.service step.queued?
  case asked r report hr hb hs =>
    have hn : step.queued? = none := by
      cases step <;> first | rfl | cases hr
    rw [hr, hn, hb b.service]
    exact .send hs

theorem traffic_run (b : Bench) {steps : List Step} (h : .clear ∉ steps) :
    Traffic b.service (b.run steps).2.service (b.served steps)
      (steps.filterMap Step.queued?) := by
  induction steps generalizing b
  case nil => exact .refl b.service
  case cons step steps hi =>
    rw [List.mem_cons, not_or] at h
    have ht := (b.traffic_step (Ne.symm h.left)).trans (hi (b.step step).2 h.right)
    cases hq : step.queued? <;> simpa [hq, served, run] using ht

def guarded : Bench where
  service := { token := some "secret" }

def trespass : List Step :=
  [.request { method := "get", address := "http://h/v1/query/d" },
   .enqueue (.failure ⟨.timeout, "slow"⟩),
   .request { method := "post", address := "http://h/v1/mutate/d", body := some (.text "x") },
   .enqueue (.response ⟨200, ""⟩)]

end Bench

end DocStore
