import DocStore.Proofs.Client.Lifecycle
import DocStore.Proofs.Client.Ready
import DocStore.Proofs.Json.Printed

namespace DocStore

namespace Json

theorem isDigit_of_isBlank {c : Char} (h : Text.isBlank c = true) : isDigit c = false := by
  rw [Bool.eq_false_iff]
  intro hd
  simp only [isDigit, Percent.isAsciiDigit, Bool.and_eq_true, decide_eq_true_eq, Char.le_def,
    UInt32.le_iff_toNat_le] at hd
  simp only [Text.isBlank, Text.inRanges, Text.blankRanges, List.any_cons, List.any_nil,
    Bool.or_false, Bool.or_eq_true, Bool.and_eq_true, decide_eq_true_eq, Char.toNat] at h
  have h0 : '0'.val.toNat = 48 := rfl
  have h9 : '9'.val.toNat = 57 := rfl
  omega

theorem readScalar_of_isBlank {c : Char} (h : Text.isBlank c = true) (s : List Char) :
    readScalar (c :: s) = .error (.problem .value (c :: s)) := by
  have hn {d : Char} (hd : Text.isBlank d = false) : d ≠ c := by
    rintro rfl
    simp [h] at hd
  have hw : readWord? (c :: s) = none := by
    simp [readWord?, words, List.isPrefixOf?, @hn 'n' rfl, @hn 't' rfl, @hn 'f' rfl, @hn 'N' rfl,
      @hn 'I' rfl, @hn '-' rfl]
  rw [readScalar.eq_def, hw]
  dsimp only
  split
  case h_1 he => exact absurd (List.head_eq_of_cons_eq he).symm (hn rfl)
  case h_2 he =>
    have hd := isDigit_of_isBlank h
    rw [List.head_eq_of_cons_eq he] at hd
    rw [if_neg (by simp [hd])]
  case h_3 he => cases he

theorem readValue_of_isBlank {s : List Char} (h : ∀ c ∈ s, Text.isBlank c = true)
    (fuel room : Nat) : ∃ stop, readValue fuel room s = .error stop := by
  cases fuel
  case zero => exact ⟨_, rfl⟩
  case succ fuel =>
    cases s
    case nil => exact ⟨_, rfl⟩
    case cons c s =>
      have hc := h c List.mem_cons_self
      have hn {d : Char} (hd : Text.isBlank d = false) : d ≠ c := by
        rintro rfl
        simp [hc] at hd
      rw [readValue.eq_def]
      dsimp only
      split
      case h_1 he => exact absurd (List.head_eq_of_cons_eq he).symm (hn rfl)
      case h_2 he => exact absurd (List.head_eq_of_cons_eq he).symm (hn rfl)
      case h_3 he => exact absurd (List.head_eq_of_cons_eq he).symm (hn rfl)
      case h_4 => exact ⟨_, readScalar_of_isBlank hc s⟩

theorem read_of_allBlank (stack : Stack) {text : String} (h : Text.allBlank text = true) :
    ∃ e, read stack text = .error e := by
  have hs : ∀ c ∈ skipSpace text.toList, Text.isBlank c = true :=
    fun c hc => List.all_eq_true.mp h c <| (List.dropWhile_sublist _).mem hc
  have ⟨stop, hv⟩ := readValue_of_isBlank hs (2 * text.toList.length + 1) stack.room
  rw [read, readAll, hv]
  split <;> exact ⟨_, rfl⟩

end Json

-- An object, or a list with an object in it.
def Json.HasRow (result : Json) : Prop :=
  ∃ members, result = .object members ∨ ∃ items, result = .array items ∧ .object members ∈ items

-- A response that has a result but no rows.
def Response.IsBare (stack : Stack) (response : Response) : Prop :=
  response.code < 300 ∧ ∃ members result, Json.read stack response.text = .ok (.object members) ∧
    Entries.get? members "result" = some result ∧ ¬result.HasRow

namespace Response

theorem allBlank_array (items : List Json) : Text.allBlank (Json.array items).spaced = false := by
  have hb : Text.isBlank '[' = false := by decide
  cases items <;> simp [Text.allBlank, Json.spaced, Json.print, hb]

theorem mem_rowsOf {result : Json} {row : Row} :
    row ∈ rowsOf result ↔
      result = .object row ∨ ∃ items, result = .array items ∧ .object row ∈ items := by
  cases result
  case array items => simp [rowsOf]
  case object members => simp [rowsOf, eq_comm]
  all_goals simp [rowsOf]

theorem rowsOf_eq_nil_iff {result : Json} : rowsOf result = [] ↔ ¬result.HasRow := by
  simp only [List.eq_nil_iff_forall_not_mem, mem_rowsOf, Json.HasRow, not_exists]

theorem contentOf_eq_rows_iff {body : Json} {rows : List Row} :
    contentOf body = .rows rows ↔ ∃ members result, body = .object members ∧
      Entries.get? members "result" = some result ∧ rowsOf result = rows := by
  cases body
  case object members => cases h : Entries.get? members "result" <;> simp [contentOf, h]
  all_goals simp [contentOf]

theorem content_eq_rows_iff {stack : Stack} {text : String} {rows : List Row} :
    content stack text = .ok (.rows rows) ↔ ∃ members result,
      Json.read stack text = .ok (.object members) ∧
      Entries.get? members "result" = some result ∧ rowsOf result = rows := by
  unfold content
  split
  case isTrue hb =>
    have ⟨e, he⟩ := Json.read_of_allBlank stack hb
    simp [he]
  case isFalse =>
    cases hr : Json.read stack text
    case error => simp
    case ok body => simp [contentOf_eq_rows_iff]

end Response

namespace Client

variable {c : Client} {s : Service} {stack : Stack} {response : Response} {canned : Canned}
  {rest : List QueuedAnswer}

def answerOf (stack : Stack) (response : Response) : Except Failure Answer :=
  if 300 ≤ response.code then .ok (.ended (.ofCode response.code))
  else
    (Response.content stack response.text).map fun
      | .nothing => .ended .unexpectedState
      | .noRows => .ended .notFound
      | .rows rows => .found rows

theorem interpret_eq (stack : Stack) (query : String) (r : Request) (response : Response) :
    (interpret stack query r response).1 = answerOf stack response := by
  unfold interpret answerOf
  split
  case isTrue => rfl
  case isFalse => cases Response.content stack response.text with
    | error => rfl
    | ok content => cases content <;> rfl

theorem answerOf_eq_error {failure : Failure} (h : answerOf stack response = .error failure) :
    response.code < 300 ∧ Text.allBlank response.text = false ∧
      ∃ e, Json.read stack response.text = .error e ∧ failure = .ofReadError response.text e := by
  unfold answerOf Response.content at h
  split at h
  case isTrue => cases h
  case isFalse hc =>
    refine ⟨Int.not_le.mp hc, ?_⟩
    repeat' split at h
    all_goals cases h
    exact ⟨Bool.eq_false_iff.mpr ‹_›, _, ‹_›, rfl⟩

theorem answerOf_eq_found_iff {rows : List Response.Row} :
    answerOf stack response = .ok (.found rows) ↔
      response.code < 300 ∧ Response.content stack response.text = .ok (.rows rows) := by
  unfold answerOf
  split
  case isTrue hc => simp [Int.not_lt.mpr hc]
  case isFalse hc =>
    rw [and_iff_right (Int.not_le.mp hc)]
    cases Response.content stack response.text with
    | error => simp [Except.map]
    | ok content => cases content <;> simp [Except.map]

theorem answerOf_eq_found_nil_iff :
    answerOf stack response = .ok (.found []) ↔ response.IsBare stack := by
  simp only [answerOf_eq_found_iff, Response.content_eq_rows_iff, Response.rowsOf_eq_nil_iff,
    Response.IsBare]

def CanSend (c : Client) : Prop :=
  ∃ σ headers, c.settings = some σ ∧ c.session = some headers ∧
    (∃ r, Request.prepare (draft "GET" σ.queryAddress [] none headers) = .ok r) ∧
    ∃ r, Request.prepare (draft "POST" σ.mutateAddress [] none headers) = .ok r

theorem canSend_of_ready {token : Option String} (h : c.Ready token) : c.CanSend :=
  have ⟨σ, headers, hσ, hh, ⟨_, r, hr, _⟩, _, r', hr', _⟩ := h
  ⟨σ, headers, hσ, hh, ⟨r, hr⟩, r', hr'⟩

-- Parameters and a body do not keep a request from being sent.
theorem exists_prepare {method address : String} {headers : Headers}
    (h : ∃ r, Request.prepare (draft method address [] none headers) = .ok r)
    (parameters : List (String × String)) (body : Option String) :
    ∃ r, Request.prepare (draft method address parameters body headers) = .ok r := by
  have ⟨_, hr⟩ := h
  rcases Request.prepare_cases method address headers.given with ⟨_, hf⟩ | ⟨_, _, _, hp, _⟩
  case inl =>
    have ⟨_, _, hf⟩ := hf [] none
    cases hr.symm.trans hf
  case inr => exact ⟨_, hp parameters (body.map .text)⟩

def arrival (canned : Canned) : Except Failure Response :=
  match canned.sent with
  | .error fault => .error (.service fault)
  | .ok response => if Text.isOverlong response.code then .error .overlongCode else .ok response

theorem arrival_plain {code : Int} (hc : Text.isOverlong code = false) (text : String) :
    arrival ⟨code, text⟩ = .ok ⟨code, text⟩ := by
  simp [arrival, Canned.sent, JsonText.string?, hc]

theorem exchange_of_queue {method address : String} {headers : Headers}
    (hh : c.session = some headers)
    (h : ∃ r, Request.prepare (draft method address [] none headers) = .ok r)
    (hq : s.queue = .response canned :: rest) (parameters : List (String × String))
    (body : Option String) :
    ∃ r, (c.exchange s method address parameters body).result =
      (arrival canned).map fun response => (r, response) := by
  have ⟨r, hr⟩ := exists_prepare h parameters body
  refine ⟨r, ?_⟩
  rw [exchange_of_prepare hh hr, Service.send_of_queue_cons hq, QueuedAnswer.result, arrival]
  unfold Canned.sent
  cases canned.text.string?
  case none => rfl
  case some text => cases ho : Text.isOverlong canned.code <;> simp [answered, ho, Except.map]

theorem ask_of_queue (hc : c.CanSend) (hq : s.queue = .response canned :: rest)
    (query : String) : (c.ask s query).result = (arrival canned).bind (answerOf s.stack) := by
  have ⟨σ, headers, hσ, hh, hp, _⟩ := hc
  have ⟨r, hr⟩ := exchange_of_queue hh hp hq [("query", query)] none
  rw [ask, hσ]
  cases ha : arrival canned <;> rw [ha] at hr <;>
    simp [Outcome.andThen, hr, interpret_eq, Except.map, Except.bind]

theorem submit_of_queue {σ : Settings} {headers : Headers} (hh : c.session = some headers)
    (hp : ∃ r, Request.prepare (draft "POST" σ.mutateAddress [] none headers) = .ok r)
    (hq : s.queue = .response canned :: rest) (body : String)
    (parameters : List (String × String)) :
    (c.submit s σ.mutateAddress body parameters).result =
      (arrival canned).map fun response => .ofCode response.code := by
  have ⟨r, hr⟩ := exchange_of_queue hh hp hq parameters (some body)
  cases ha : arrival canned <;> rw [ha] at hr <;>
    simp [submit, Outcome.andThen, hr, statusOf, Except.map]

theorem change_of_queue (hc : c.CanSend) (hq : s.queue = .response canned :: rest) {m : Edit}
    (hv : ∀ e ∈ m.values, e.2.IsReadable) {o : Outcome Status} (h : Change c s m.mutation o) :
    o.result = (arrival canned).map fun response => .ofCode response.code := by
  have ⟨σ, headers, hσ, hh, _, hp⟩ := hc
  cases h
  case notReady hn => cases hn.symm.trans hσ
  case badBytes ht =>
    have ⟨fields, hf⟩ := Edit.texts_of_readable hv
    cases (Edit.texts_of_payload_error ht).symm.trans hf
  case submitted hs _ =>
    cases hs.symm.trans hσ
    exact submit_of_queue hh hp hq ..

section

variable {α : Type} (into : α) (deliver : Answer → Status × α) {o : Outcome Answer}

theorem collect_of_error {failure : Failure} (h : o.result = .error failure) :
    (collect o into deliver).1.result = .error failure ∧ (collect o into deliver).2 = into := by
  rw [collect, h]
  exact ⟨rfl, rfl⟩

theorem collect_of_ok {answer : Answer} (h : o.result = .ok answer) :
    (collect o into deliver).1.result = .ok (deliver answer).1 ∧
      (collect o into deliver).2 = (deliver answer).2 := by
  rw [collect, h]
  exact ⟨rfl, rfl⟩

end

def recordsOf (fields : Option (List String)) : Answer → List Record
  | .ended _ => []
  | .found rows => fields.elim [] fun fields => rows.map (Response.record fields)

theorem deliverRecord_eq (fields : Option (List String)) (into : Record) (answer : Answer) :
    (deliverRecord fields into answer).2 =
      (recordsOf fields answer).foldl Entries.update into := by
  cases answer
  case ended => rfl
  case found rows =>
    cases rows <;> cases fields <;> simp [deliverRecord, recordsOf, List.foldl_map]

theorem deliverRecords_eq (fields : Option (List String)) (into : List Record) (answer : Answer) :
    (deliverRecords fields into answer).2 = into ++ recordsOf fields answer := by
  cases answer <;> cases fields <;> simp [deliverRecords, recordsOf]

-- A read and a scan differ in what they say of an answer without rows.
theorem status_deliver (fields : Option (List String)) (record : Record) (records : List Record) :
    (deliverRecord fields record (.found [])).1 = .notFound ∧
    (deliverRecords fields records (.found [])).1 = .ok ∧
    ∀ answer, answer ≠ .found [] →
      (deliverRecord fields record answer).1 = (deliverRecords fields records answer).1 := by
  refine ⟨rfl, by cases fields <;> rfl, fun answer hn => ?_⟩
  cases answer
  case ended => rfl
  case found rows =>
    cases rows
    case nil => exact absurd rfl hn
    case cons => cases fields <;> rfl

theorem read_of_answerOf_error {code : Int} {body : Json} {failure : Failure} (hc : c.CanSend)
    (hq : s.queue = .response ⟨code, body.spaced⟩ :: rest) (hl : Text.isOverlong code = false)
    (h : answerOf s.stack ⟨code, body.spaced⟩ = .error failure) (type id : String)
    (fields : Option (List String)) (into : Record) :
    (c.read s type id fields into).1.result = .error failure := by
  have ha := ask_of_queue hc hq (Query.lookup type id (fields.getD [])).text
  rw [arrival_plain hl] at ha
  exact (collect_of_error _ _ <| ha.trans h).left

-- How a queued response fails those who ask: its text cannot be sent, its code cannot be logged, or
-- the text is no JSON, or it is too deep to be read.
inductive Spoils (stack : Stack) (canned : Canned) : Failure → Prop where
  | unencodable (ht : canned.text.string? = none) :
    Spoils stack canned (.service (.unencodable canned.text))
  | overlongCode {text : String} (ht : canned.text = .plain text)
    (hc : Text.isOverlong canned.code = true) : Spoils stack canned .overlongCode
  | badResponse {text : String} {e : Json.Error} (ht : canned.text = .plain text)
    (hc : canned.code < 300) (hb : Text.allBlank text = false)
    (hr : Json.read stack text = .error e) (hd : ∀ container, e ≠ .tooDeep container) :
    Spoils stack canned (.badResponse e text)
  | tooDeep {text : String} {container : Json.Container} (ht : canned.text = .plain text)
    (hc : canned.code < 300) (hr : Json.read stack text = .error (.tooDeep container)) :
    Spoils stack canned (.tooDeep container)

theorem not_spoils_of_read {code : Int} {text : String} {body : Json} {failure : Failure}
    (hc : Text.isOverlong code = false) (hr : Json.read stack text = .ok body) :
    ¬Spoils stack ⟨code, text⟩ failure := by
  intro h
  cases h
  case unencodable ht => cases ht
  case overlongCode hc' => cases hc.symm.trans hc'
  case badResponse ht _ _ hr' _ =>
    cases ht
    cases hr.symm.trans hr'
  case tooDeep ht _ hr' =>
    cases ht
    cases hr.symm.trans hr'

theorem spoils_of_ask_error {failure : Failure}
    (h : (arrival canned).bind (answerOf stack) = .error failure) :
    Spoils stack canned failure := by
  unfold arrival Canned.sent at h
  cases ht : canned.text.string? <;> rw [ht] at h
  case none =>
    cases h
    exact .unencodable ht
  case some text =>
    have ht := JsonText.string?_eq_some.mp ht
    dsimp only at h
    split at h
    case isTrue hc =>
      cases h
      exact .overlongCode ht hc
    case isFalse =>
      obtain ⟨hc, hb, e, hr, rfl⟩ := answerOf_eq_error h
      cases e
      case tooDeep container => exact .tooDeep ht hc hr
      case malformed => exact .badResponse ht hc hb hr nofun
      case tooLong => exact .badResponse ht hc hb hr nofun

theorem text_of_ask_ok {answer : Answer}
    (h : (arrival canned).bind (answerOf stack) = .ok answer) :
    ∃ text : String, canned.text = .plain text ∧
      answerOf stack ⟨canned.code, text⟩ = .ok answer := by
  unfold arrival Canned.sent at h
  cases ht : canned.text.string? <;> rw [ht] at h
  case none => cases h
  case some text =>
    refine ⟨text, JsonText.string?_eq_some.mp ht, ?_⟩
    dsimp only at h
    split at h
    case isTrue => cases h
    case isFalse => exact h

-- A read and a scan that get one response take it alike.
theorem read_scan_alike {c' : Client} {s' : Service} {rest' : List QueuedAnswer} {n : Nat}
    (hc : c.CanSend) (hc' : c'.CanSend) (hs : s'.stack = s.stack)
    (hq : s.queue = .response canned :: rest) (hq' : s'.queue = .response canned :: rest')
    (hn : n < Nat.pow 10 Text.digitLimit) (type id type' start : String)
    (fields : Option (List String)) (record : Record) (records : List Record) :
    (∃ failure, Spoils s.stack canned failure ∧
      (c.read s type id fields record).1.result = .error failure ∧
      (c'.scan s' type' start n fields records).1.result = .error failure ∧
      (c.read s type id fields record).2 = record ∧
      (c'.scan s' type' start n fields records).2 = records) ∨
    ∃ text status status' delivered, canned.text = .plain text ∧
      (c.read s type id fields record).1.result = .ok status ∧
      (c'.scan s' type' start n fields records).1.result = .ok status' ∧
      (c.read s type id fields record).2 = delivered.foldl Entries.update record ∧
      (c'.scan s' type' start n fields records).2 = records ++ delivered ∧
      (Response.IsBare s.stack ⟨canned.code, text⟩ → status = .notFound ∧ status' = .ok) ∧
      (¬Response.IsBare s.stack ⟨canned.code, text⟩ → status = status') := by
  obtain ⟨q, _, ht⟩ := Selection.rangeText_natCast type' start hn (fields.getD [])
  have ha := ask_of_queue hc hq (Query.lookup type id (fields.getD [])).text
  have ha' := ask_of_queue hc' hq' q.text
  rw [hs] at ha'
  rw [scan_eq, ht, read]
  cases hw : (arrival canned).bind (answerOf s.stack)
  case error failure =>
    obtain ⟨ho, hi⟩ := collect_of_error record (deliverRecord fields record) (ha.trans hw)
    obtain ⟨ho', hi'⟩ := collect_of_error records (deliverRecords fields records) (ha'.trans hw)
    exact .inl ⟨failure, spoils_of_ask_error hw, ho, ho', hi, hi'⟩
  case ok answer =>
    obtain ⟨text, ht, hw'⟩ := text_of_ask_ok hw
    obtain ⟨ho, hi⟩ := collect_of_ok record (deliverRecord fields record) (ha.trans hw)
    obtain ⟨ho', hi'⟩ := collect_of_ok records (deliverRecords fields records) (ha'.trans hw)
    obtain ⟨hn, hn', hs⟩ := status_deliver fields record records
    rw [deliverRecord_eq] at hi
    rw [deliverRecords_eq] at hi'
    refine .inr ⟨text, _, _, _, ht, ho, ho', hi, hi', fun hb => ?bare, fun hb => hs answer ?rows⟩
    case bare =>
      cases hw'.symm.trans (answerOf_eq_found_nil_iff.mpr hb)
      exact ⟨hn, hn'⟩
    case rows =>
      rintro rfl
      exact hb <| answerOf_eq_found_nil_iff.mp hw'

def courier : Client where
  properties := [("sanity.dataset", .text "main")]

theorem canSend_courier : courier.start.1.CanSend := by
  have hr : courier.start.1.Ready none := by decide +kernel
  exact canSend_of_ready hr

def answering (code : Int) (body : Json) : Service where
  queue := [.response ⟨code, body.spaced⟩]

theorem queue_answering (code : Int) (body : Json) :
    (answering code body).queue = [.response ⟨code, body.spaced⟩] :=
  rfl

def mixed : Json :=
  .object [("result", .array [.object [("a", .int 1)], .int 5,
    .object [("a", .text "y"), ("b", .null)]])]

theorem read_mixed : Json.read default mixed.spaced = .ok mixed :=
  Json.read_spaced (by decide) (by decide) (by decide)

theorem read_scan_alike_mixed :
    courier.start.1.CanSend ∧
    (answering 200 mixed).queue = [.response ⟨200, mixed.spaced⟩] ∧
    0 < Nat.pow 10 Text.digitLimit ∧
    ∃ status delivered,
      (courier.start.1.read (answering 200 mixed) "t" "k" (some ["a", "b"])
        [("b", "old")]).1.result = .ok status ∧
      (courier.start.1.scan (answering 200 mixed) "u" "" (0 : Nat) (some ["a", "b"])
        [[]]).1.result = .ok status ∧
      (courier.start.1.read (answering 200 mixed) "t" "k" (some ["a", "b"]) [("b", "old")]).2 =
        delivered.foldl Entries.update [("b", "old")] ∧
      (courier.start.1.scan (answering 200 mixed) "u" "" (0 : Nat) (some ["a", "b"]) [[]]).2 =
        [[]] ++ delivered := by
  have hb : ¬Response.IsBare default ⟨200, mixed.spaced⟩ := by
    rintro ⟨_, _, _, hr, hg, hn⟩
    cases read_mixed.symm.trans hr
    cases hg
    exact hn ⟨_, .inr ⟨_, rfl, .head _⟩⟩
  have hc := canSend_courier
  have hq := queue_answering 200 mixed
  have hn : 0 < Nat.pow 10 Text.digitLimit := by decide +kernel
  refine ⟨hc, hq, hn, ?_⟩
  rcases read_scan_alike hc hc rfl hq hq hn "t" "k" "u" "" (some ["a", "b"]) [("b", "old")]
    [[]] with
    ⟨_, hs, _⟩ | ⟨text, status, _, delivered, ht, ho, ho', hi, hi', _, hs⟩
  case inl => exact absurd hs <| not_spoils_of_read (Text.isOverlong_of_lt (by decide)) read_mixed
  case inr =>
    cases ht
    exact ⟨status, delivered, ho, hs hb ▸ ho', hi, hi'⟩

theorem read_nested :
    courier.start.1.CanSend ∧
    (answering 200 (.nested 2000)).queue = [.response ⟨200, (Json.nested 2000).spaced⟩] ∧
    ∃ failure, failure.kind? = none ∧
      (courier.start.1.read (answering 200 (.nested 2000)) "t" "k" (some ["a"]) []).1.result =
        .error failure := by
  have hc := canSend_courier
  have hq := queue_answering 200 (.nested 2000)
  have hr : Json.read default (Json.nested 2000).spaced = .error (.tooDeep .array) :=
    Json.read_spaced_nested (by decide)
  have hb : Text.allBlank (Json.nested 2000).spaced = false := Response.allBlank_array [_]
  have ha : answerOf default ⟨200, (Json.nested 2000).spaced⟩ = .error (.tooDeep .array) := by
    rw [answerOf, if_neg (by decide), Response.content, hb, hr]
    rfl
  exact ⟨hc, hq, _, rfl, read_of_answerOf_error hc hq (Text.isOverlong_of_lt (by decide)) ha ..⟩

end Client

end DocStore
