import DocStore.Proofs.Client.Responses

namespace DocStore

namespace Status

theorem ofCode_ne_ok {code : Int} (h : code < 200 ∨ 300 ≤ code) : ofCode code ≠ .ok := by
  rw [Ne, ofCode_eq_ok_iff]
  omega

theorem ofCode_ne_unexpectedState (code : Int) : ofCode code ≠ .unexpectedState := by
  unfold ofCode
  repeat' split
  all_goals simp

theorem ofCode_of_lt {code : Int} (h : code < 200) : ofCode code = .error := by
  unfold ofCode
  repeat' rw [if_neg (by omega)]

end Status

namespace Client

open Bench (Call Delivery Report reportOf runCall)

variable {c : Client} {s : Service} {stack : Stack} {response : Response} {canned : Canned}
  {rest : List QueuedAnswer} {call : Call}

theorem answerOf_of_lt (h : response.code < 300) :
    answerOf stack response = answerOf stack ⟨200, response.text⟩ := by
  rw [answerOf, if_neg (Int.not_le.mpr h), answerOf, if_neg (by simp)]

theorem answerOf_ne_error (h : response.code < 300) :
    answerOf stack response ≠ .ok (.ended .error) := by
  rw [answerOf, if_neg (Int.not_le.mpr h)]
  cases Response.content stack response.text with
  | error => simp [Except.map]
  | ok content => cases content <;> simp [Except.map]

-- What is made of the answers to a query: one that has ended delivers nothing, and rows are no
-- error.
structure Delivers (call : Call) (deliver : Answer → Status × Delivery) : Prop where
  ended : ∀ status, deliver (.ended status) = (status, call.untouched)
  found : ∀ rows, (deliver (.found rows)).1 ≠ .error

theorem Delivers.ne_error {deliver : Answer → Status × Delivery} (hd : Delivers call deliver)
    (hc : response.code < 300) {answer : Answer} (h : answerOf stack response = .ok answer) :
    (deliver answer).1 ≠ .error := by
  cases answer
  case ended status =>
    rw [hd.ended]
    rintro rfl
    exact answerOf_ne_error hc h
  case found rows => exact hd.found rows

def reportAs (call : Call) (deliver : Answer → Status × Delivery) (log : List LogLine) :
    Except Failure Answer → Report
  | .error failure => .call (.error failure) log call.untouched
  | .ok answer => .call (.ok (some (deliver answer).1)) log (deliver answer).2

theorem reportOf_collect {α : Type} (into : α) (deliver : Answer → Status × α)
    (delivery : α → Delivery) (hi : delivery into = call.untouched) (o : Outcome Answer) :
    (reportOf (collect o into deliver).1 (delivery (collect o into deliver).2)).1 =
      reportAs call (fun answer => ((deliver answer).1, delivery (deliver answer).2)) o.log
        o.result := by
  rw [collect]
  cases h : o.result
  case error => exact congrArg _ hi
  case ok => rfl

def recordDelivery (fields : Option (List String)) (into : Record) (answer : Answer) :
    Status × Delivery :=
  ((deliverRecord fields into answer).1, .record (deliverRecord fields into answer).2)

def recordsDelivery (fields : Option (List String)) (into : List Record) (answer : Answer) :
    Status × Delivery :=
  ((deliverRecords fields into answer).1, .records (deliverRecords fields into answer).2)

theorem delivers_recordDelivery (type id : String) (fields : Option (List String)) (into : Record) :
    Delivers (.read type id fields into) (recordDelivery fields into) where
  ended _ := rfl
  found rows := by cases rows <;> cases fields <;> simp [recordDelivery, deliverRecord]

theorem delivers_recordsDelivery (type start : String) (count : Int) (fields : Option (List String))
    (into : List Record) :
    Delivers (.scan type start count fields into) (recordsDelivery fields into) where
  ended _ := rfl
  found _ := by cases fields <;> simp [recordsDelivery, deliverRecords]

theorem report_read (hc : c.CanSend) (hq : s.queue = .response canned :: rest)
    (type id : String) (fields : Option (List String)) (into : Record) :
    ∃ log, (runCall c s (.read type id fields into)).1 =
      reportAs (.read type id fields into) (recordDelivery fields into) log
        ((arrival canned).bind (answerOf s.stack)) := by
  have hi : .record into = (Call.read type id fields into).untouched := rfl
  have hr := reportOf_collect into (deliverRecord fields into) .record hi
    (c.ask s (Query.lookup type id (fields.getD [])).text)
  rw [ask_of_queue hc hq] at hr
  exact ⟨_, hr⟩

theorem report_scan (hc : c.CanSend) (hq : s.queue = .response canned :: rest)
    (type start : String) {n : Nat} (hn : n < Nat.pow 10 Text.digitLimit)
    (fields : Option (List String)) (into : List Record) :
    ∃ log, (runCall c s (.scan type start n fields into)).1 =
      reportAs (.scan type start n fields into) (recordsDelivery fields into) log
        ((arrival canned).bind (answerOf s.stack)) := by
  obtain ⟨q, _, ht⟩ := Selection.rangeText_natCast type start hn (fields.getD [])
  have hi : .records into = (Call.scan type start n fields into).untouched := rfl
  have hr := reportOf_collect into (deliverRecords fields into) .records hi (c.ask s q.text)
  rw [ask_of_queue hc hq] at hr
  simp only [runCall, scan_eq, ht]
  exact ⟨_, hr⟩

-- The service has no say in what a query makes of the response to it.
theorem exists_delivers (hc : c.CanSend) (h : call.isQuery = true) (ha : call.IsAccepted) :
    ∃ deliver, Delivers call deliver ∧
      ∀ {s : Service} {canned : Canned} {rest : List QueuedAnswer},
        s.queue = .response canned :: rest →
        ∃ log, (runCall c s call).1 =
          reportAs call deliver log ((arrival canned).bind (answerOf s.stack)) := by
  cases call
  case read type id fields into =>
    exact ⟨_, delivers_recordDelivery .., fun hq => report_read hc hq type id fields into⟩
  case scan type start count fields into =>
    obtain ⟨n, rfl⟩ := Int.eq_ofNat_of_zero_le ha.left
    have hn : n < Nat.pow 10 Text.digitLimit := by
      simpa using Text.isOverlong_eq_false_iff.mp ha.right
    exact ⟨_, delivers_recordsDelivery .., fun hq => report_scan hc hq type start hn fields into⟩
  all_goals cases h

-- A mutation is answered by the code alone, where there is a response.
theorem runCall_of_mutation (hc : c.CanSend) (ho : call.isOperation = true)
    (hm : call.isQuery = false) (ha : call.IsAccepted)
    (hq : s.queue = .response canned :: rest) :
    ∃ log, (runCall c s call).1 =
      .call ((arrival canned).map fun response => some (.ofCode response.code)) log
        call.untouched := by
  have hr {m : Edit} {o : Outcome Status} (h : Change c s m.mutation o)
      (hv : ∀ e ∈ m.values, e.2.IsReadable) : ∃ log, (reportOf o .nothing).1 =
        .call ((arrival canned).map fun response => some (.ofCode response.code)) log
          .nothing := by
    refine ⟨o.log, ?_⟩
    rw [reportOf, change_of_queue hc hq hv h]
    cases arrival canned <;> rfl
  cases call
  case start => cases ho
  case stop => cases ho
  case read => cases hm
  case scan => cases hm
  case insert type id values => exact @hr ⟨_, type, id, values⟩ _ (c.insert_spec s ..) ha
  case update type id values => exact @hr ⟨_, type, id, values⟩ _ (c.post_spec s _) ha
  case delete type id => exact @hr ⟨_, type, id, []⟩ _ (c.post_spec s _) (by simp)

theorem runCall_of_overlongCode (hc : c.CanSend) (ho : call.isOperation = true)
    (ha : call.IsAccepted) (hq : s.queue = .response canned :: rest)
    (hl : arrival canned = .error .overlongCode) :
    ∃ log, (runCall c s call).1 = .call (.error .overlongCode) log call.untouched := by
  cases hm : call.isQuery
  case false =>
    have ⟨log, hr⟩ := runCall_of_mutation hc ho hm ha hq
    rw [hl] at hr
    exact ⟨log, hr⟩
  case true =>
    obtain ⟨deliver, _, hr⟩ := exists_delivers hc hm ha
    obtain ⟨log, hr⟩ := hr hq
    rw [hl] at hr
    exact ⟨log, hr⟩

-- A response whose code is no success is answered by the status of the code, and nothing is
-- delivered, except where a query gets a code below those of a success: that is taken for a
-- success, and its text is read. A code that is too long to be logged fails every operation.
theorem runCall_of_code {code : Int} {text : String} (hc : c.CanSend)
    (ho : call.isOperation = true) (ha : call.IsAccepted)
    (hq : s.queue = .response ⟨code, text⟩ :: rest) (h : code < 200 ∨ 300 ≤ code) :
    Status.ofCode code ≠ .ok ∧ Status.ofCode code ≠ .unexpectedState ∧
    (Text.isOverlong code = true →
      ∃ log, (runCall c s call).1 = .call (.error .overlongCode) log call.untouched) ∧
    (Text.isOverlong code = false →
      ((∃ log, (runCall c s call).1 = .call (.ok (some (.ofCode code))) log call.untouched) ↔
        call.isQuery = false ∨ 300 ≤ code) ∧
      (call.isQuery = true → code < 200 →
        ∀ {s' : Service} {rest' : List QueuedAnswer}, s'.stack = s.stack →
          s'.queue = .response ⟨200, text⟩ :: rest' →
          ∃ result log log' delivery, (runCall c s call).1 = .call result log delivery ∧
            (runCall c s' call).1 = .call result log' delivery)) := by
  refine ⟨Status.ofCode_ne_ok h, Status.ofCode_ne_unexpectedState _, fun hl => ?long, fun hl => ?_⟩
  case long =>
    have hr : arrival ⟨code, text⟩ = .error .overlongCode := by
      simp [arrival, Canned.sent, JsonText.string?, hl]
    exact runCall_of_overlongCode hc ho ha hq hr
  have hr : arrival ⟨code, text⟩ = .ok ⟨code, text⟩ := arrival_plain hl text
  cases hm : call.isQuery
  case false =>
    obtain ⟨log, hr'⟩ := runCall_of_mutation hc ho hm ha hq
    rw [hr] at hr'
    exact ⟨by simpa using ⟨log, hr'⟩, by simp⟩
  case true =>
    obtain ⟨deliver, hd, hx⟩ := exists_delivers hc hm ha
    obtain ⟨log, hl'⟩ := hx hq
    rw [hr, Except.bind] at hl'
    refine ⟨⟨?low, fun he => ?high⟩, fun _ hlt s' rest' hs hq' => ?alike⟩
    case low =>
      rintro ⟨_, he⟩
      refine .inr <| h.resolve_left fun hlt => ?_
      rw [hl', Status.ofCode_of_lt hlt] at he
      cases ha : answerOf s.stack ⟨code, text⟩ with
      | error => simp [ha, reportAs] at he
      | ok answer =>
        rw [ha, reportAs] at he
        simp only [Report.call.injEq, Except.ok.injEq, Option.some.injEq] at he
        exact hd.ne_error (Int.lt_trans hlt (by decide)) ha he.left
    case high =>
      have hle : 300 ≤ code := by simpa using he
      refine ⟨log, ?_⟩
      rw [hl', answerOf, if_pos hle, reportAs, hd.ended]
    case alike =>
      obtain ⟨log', hl''⟩ := hx hq'
      have hk : Text.isOverlong 200 = false := Text.isOverlong_of_lt (by decide)
      rw [arrival_plain hk, Except.bind, hs] at hl''
      rw [hl', hl'', answerOf_of_lt (Int.lt_trans hlt (by decide))]
      cases answerOf s.stack ⟨200, text⟩
      case error => exact ⟨_, _, _, _, rfl, rfl⟩
      case ok => exact ⟨_, _, _, _, rfl, rfl⟩

theorem runCall_of_code_courier :
    courier.start.1.CanSend ∧
    (answering 199 mixed).queue = [.response ⟨199, mixed.spaced⟩] ∧
    (answering 503 mixed).queue = [.response ⟨503, mixed.spaced⟩] ∧
    (∃ log, (runCall courier.start.1 (answering 199 mixed) (.delete "t" "k")).1 =
      .call (.ok (some .error)) log .nothing) ∧
    ∃ log, (runCall courier.start.1 (answering 503 mixed) (.scan "t" "" 1 none [[]])).1 =
      .call (.ok (some .serviceUnavailable)) log (.records [[]]) := by
  have hc := canSend_courier
  have ⟨_, _, _, hd⟩ := @runCall_of_code _ (answering 199 mixed) _ (.delete "t" "k") 199 _ hc rfl
    trivial rfl (.inl (by decide))
  have hn : (Call.scan "t" "" 1 none [[]]).IsAccepted :=
    ⟨Int.one_nonneg, Text.isOverlong_of_lt (by decide)⟩
  have ⟨_, _, _, hs⟩ := @runCall_of_code _ (answering 503 mixed) _ (.scan "t" "" 1 none [[]]) 503 _
    hc rfl hn rfl (.inr (by decide))
  exact ⟨hc, rfl, rfl, (hd (Text.isOverlong_of_lt (by decide))).left.mpr (.inl rfl),
    (hs (Text.isOverlong_of_lt (by decide))).left.mpr (.inr (by decide))⟩

theorem read_informational :
    courier.start.1.CanSend ∧
    (answering 199 mixed).queue = [.response ⟨199, mixed.spaced⟩] ∧ Status.ofCode 199 = .error ∧
    ∃ log, (runCall courier.start.1 (answering 199 mixed) (.read "t" "k" (some ["a"]) [])).1 =
      .call (.ok (some .ok)) log (.record [("a", "y")]) := by
  have ha : answerOf default ⟨199, mixed.spaced⟩ =
      .ok (.found [[("a", .int 1)], [("a", .text "y"), ("b", .null)]]) :=
    answerOf_eq_found_iff.mpr ⟨by decide,
      Response.content_eq_rows_iff.mpr ⟨_, _, read_mixed, rfl, rfl⟩⟩
  have ⟨log, hr⟩ := report_read canSend_courier (queue_answering 199 mixed) "t" "k" (some ["a"]) []
  have hk : Text.isOverlong 199 = false := Text.isOverlong_of_lt (by decide)
  rw [arrival_plain hk, Except.bind] at hr
  exact ⟨canSend_courier, rfl, rfl, log, hr.trans <| congrArg (reportAs _ _ log) ha⟩

end Client

end DocStore
