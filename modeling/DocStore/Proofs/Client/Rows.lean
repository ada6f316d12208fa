import DocStore.Proofs.Client.Exchange
import DocStore.Proofs.Query.RoundTrip

namespace DocStore

-- A query text starts with a character that is escaped in an address, so in its escaped form it is
-- none.
theorem Query.parse?_spelled (q : Query) :
    Selection.parse? (Form.spelled q.text).toList = none := by
  have ⟨rest, hr⟩ := q.text_eq_cons
  have he : Form.encodeChar '*' = ['%', '2', 'A'] := by decide
  rw [Form.spelled, Form.encodeText, hr, List.flatMap_cons, he, String.toList_ofList]
  rfl

namespace Request

open Selection

-- The service takes the first query that there is, and one in the address comes before any other.
theorem parameter?_carrying (r : Request) (isBroken : Bool) (query : List Char)
    (body : Option Payload) {text : String} (h : text ≠ "") :
    Service.parameter? (carrying r isBroken query [("query", text)] body) "query" =
      (((Form.decode (Url.sendPart isBroken query)).find? (·.1 = "query")).map Prod.snd).or
        (some (if isBroken then Form.spelled text else text)) := by
  have hs : Form.spelled "query" = "query" := by decide
  have hp : (carrying r isBroken query [("query", text)] body).parameters =
      Form.decode (Url.sendPart isBroken query) ++
        [("query", if isBroken then Form.spelled text else text)] := by
    rw [parameters, carrying, Url.decode_sendPart_joinQuery,
      Url.decode_sendPart_encode isBroken (by simpa using h)]
    cases isBroken <;> simp [hs]
  rw [Service.parameter?, hp, List.find?_append, Option.map_or]
  simp

-- A query arrives as it was written, unless the host breaks the escapes of its address.
theorem parameter?_of_draft {address text : String} {headers : Headers} {r : Request}
    (hq : '?' ∉ address.toList) (ht : text ≠ "")
    (h : prepare (Client.draft "GET" address [("query", text)] none headers) = .ok r) :
    Service.parameter? r "query" = some text ∨
    '%' ∈ r.url.host ∧ Service.parameter? r "query" = some (Form.spelled text) := by
  rcases prepare_cases "GET" address headers.given with
    ⟨_, hf⟩ | ⟨r', isBroken, query, hp, _, hn, hb⟩
  case inl =>
    have ⟨_, _, hf⟩ := hf [("query", text)] none
    cases h.symm.trans hf
  case inr =>
    cases h.symm.trans <| hp [("query", text)] none
    rw [hn hq, parameter?_carrying _ _ _ _ ht]
    cases isBroken
    case false => exact .inl rfl
    case true => exact .inr ⟨hb rfl, rfl⟩

end Request

namespace Document

def reread (d : Document) : Response.Row :=
  Entries.ofList (Json.rereadMembers d.toMembers)

theorem reread_of_isCarried {d : Document} (h : d.toJson.isCarried = true) :
    d.reread = d.toMembers :=
  Json.object.inj (Json.rereads_of_isCarried h).right.right

end Document

namespace Response

theorem valueText_text (t : JsonText) : valueText (.text t) = t :=
  rfl

theorem record_members (fields : List String) (r : Record) :
    record fields r.members = r.pick fields := by
  simp [record, Record.pick, Record.get?_members, Function.comp_def, valueText_text]

theorem allBlank_spaced (members : List (JsonText × Json)) :
    Text.allBlank (Json.object members).spaced = false := by
  have hb : Text.isBlank '\x7b' = false := by decide
  cases members <;> simp [Text.allBlank, Json.spaced, Json.print, hb]

theorem rowsOf_reread (rows : List Document) :
    rowsOf (Json.array (rows.map Document.toJson)).reread = rows.map Document.reread := by
  simp [rowsOf, Json.reread, Json.rereadItems_eq, Document.toJson, Function.comp_def, Json.members?,
    Document.reread]

variable {stack : Stack} {rows : List Document}

-- Whether a response is the answer to a query in which some rows are found.
def Finds (stack : Stack) (rows : List Row) (response : Response) : Prop :=
  response.code = 200 ∧ content stack response.text = .ok (.rows rows)

-- Rows that there is room for are sent, and found by the client, unless one of them has a number
-- with too many digits.
theorem finds_rowsAnswer (query : String) (h : ∀ d ∈ rows, d.toJson.isFloatFree = true)
    (hd : (Json.array (rows.map Document.toJson)).depth + 1 ≤ stack.room) :
    ((∀ d ∈ rows, d.toJson.tooLong? = none) →
      ∃ response, (Service.rowsAnswer query rows).response stack = .ok response ∧
        Finds stack (rows.map Document.reread) response) ∧
    (¬(∀ d ∈ rows, d.toJson.tooLong? = none) →
      (Service.rowsAnswer query rows).response stack = .error (.unwritable .overlong)) := by
  have hf : (Service.rowsAnswer query rows).body.isFloatFree = true := by
    have hr : Json.areFloatFree (rows.map Document.toJson) = true :=
      Json.areFloatFree_iff.mpr (by simpa using h)
    simp [Service.rowsAnswer, Json.isFloatFree, Json.areFloatFreeMembers, hr]
  have hd : (Service.rowsAnswer query rows).body.depth ≤ stack.room := by
    simp only [Service.rowsAnswer, Json.depth, Json.membersDepth] at hd ⊢
    omega
  have ht : (Service.rowsAnswer query rows).body.tooLong? =
      Json.itemsTooLong? (rows.map Document.toJson) := by
    have ho : Json.overlong? 1 = none := by decide
    simp [Service.rowsAnswer, Json.tooLong?, Json.membersTooLong?, ho]
  have hn : (∀ d ∈ rows, d.toJson.tooLong? = none) ↔
      (Service.rowsAnswer query rows).body.tooLong? = none := by
    simp [ht, Json.itemsTooLong?_eq_none_iff]
  rw [hn, Service.Answer.response, Json.write_of_depth_le .spaced hd]
  cases hl : (Service.rowsAnswer query rows).body.tooLong?
  case some => exact ⟨fun h => absurd h (Option.some_ne_none _), fun _ => rfl⟩
  case none =>
    refine ⟨fun _ => ⟨_, rfl, rfl, ?_⟩, fun h => absurd rfl h⟩
    have hb : Text.allBlank (Service.rowsAnswer query rows).body.spaced = false :=
      allBlank_spaced _
    have hr : (Service.rowsAnswer query rows).body.reread =
        .object [("ms", .int 1), ("query", .text query),
          ("result", (Json.array (rows.map Document.toJson)).reread)] := by
      simp [Service.rowsAnswer, Json.reread, Json.rereadMembers]
      rfl
    change content stack (Service.rowsAnswer query rows).body.spaced = _
    rw [content, hb, Json.read_spaced hf hd hl, hr, ← rowsOf_reread]
    rfl

-- Rows that JSON carries as they are are found as they are.
theorem finds_rowsAnswer_of_isCarried (query : String)
    (h : ∀ d ∈ rows, d.toJson.isCarried = true)
    (hd : (Json.array (rows.map Document.toJson)).depth + 1 ≤ stack.room) :
    ∃ response, (Service.rowsAnswer query rows).response stack = .ok response ∧
      Finds stack (rows.map Document.toMembers) response := by
  have hr : rows.map Document.reread = rows.map Document.toMembers :=
    List.map_congr_left fun d hm => Document.reread_of_isCarried (h d hm)
  rw [← hr]
  exact (finds_rowsAnswer query (fun d hm => (Json.rereads_of_isCarried (h d hm)).left) hd).left
    fun d hm => (Json.rereads_of_isCarried (h d hm)).right.left

theorem finds_recordsAnswer (stack : Stack) (query : String) {rs : List Record}
    (h : ∀ r ∈ rs, (Json.object r.members).isCarried = true) :
    ∃ response,
      (Service.rowsAnswer query (rs.map Record.document)).response stack = .ok response ∧
      Finds stack (rs.map Record.members) response := by
  have hm : (rs.map Record.document).map Document.toMembers = rs.map Record.members := by
    simp [Function.comp_def]
  rw [← hm]
  refine finds_rowsAnswer_of_isCarried query ?_ ?_
  · simp only [List.mem_map, forall_exists_index, and_imp, forall_apply_eq_imp_iff₂]
    intro r hr
    rw [Document.toJson, Record.toMembers_document]
    exact h r hr
  · have hd := Selection.depth_documents rs
    have hs := stack.ample
    rw [Stack.room]
    omega

end Response

namespace Selection

theorem isCarried_rows (q : Selection) (limit : Option Nat) {rs : List Record}
    (h : ∀ r ∈ rs, r.IsDocument) :
    ∀ r ∈ q.rows limit rs, (Json.object r.members).isCarried = true := by
  intro r hr
  have ⟨r', hr', he⟩ := mem_rows hr
  exact he ▸ q.isCarried_shapeRecord (h r' hr')

end Selection

namespace Service

-- The answer to a query that the service understands is made of the records that it selects.
theorem answerQuery_documents (stack : Stack) {s : KeyedStore} (hs : s.AreDocuments) {text : String}
    {q : Selection} {limit : Option Nat} (hp : Selection.parse? text.toList = some q)
    (hl : q.limit? = .ok limit) :
    answerQuery stack text s.documents =
      .ok (rowsAnswer text ((q.rows limit (s.map Prod.snd)).map Record.document)) := by
  have hd : s.documents.map Prod.snd = (s.map Prod.snd).map Record.document := by
    simp [KeyedStore.documents]
  rw [answerQuery, hp]
  simp only [q.run_documents stack hd hs.map_snd hl, Except.map]

end Service

end DocStore
