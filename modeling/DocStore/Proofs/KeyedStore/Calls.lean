import DocStore.Bench
import DocStore.Proofs.KeyedStore.Lookup
import DocStore.Proofs.Mutation

namespace DocStore

namespace Bench.Call

-- A call that creates a document as it is asked to, if it creates one: no field takes the place of
-- the id or the type. Counts are those that can be written in a query.
def IsPlain : Call → Prop
  | .start => False
  | .stop => False
  | .read .. => True
  | .scan _ _ count _ _ => count.toNat < Nat.pow 10 Text.digitLimit
  | .insert _ _ values => "_id" ∉ values.map Prod.fst ∧ "_type" ∉ values.map Prod.fst
  | .update .. => True
  | .delete .. => True

instance (call : Call) : Decidable call.IsPlain :=
  match call with
  | .start | .stop => inferInstanceAs <| Decidable False
  | .read .. | .update .. | .delete .. => inferInstanceAs <| Decidable True
  | .scan .. => inferInstanceAs <| Decidable (_ < _)
  | .insert .. => inferInstanceAs <| Decidable (_ ∉ _ ∧ _ ∉ _)

-- A call that gives no document another id.
def KeepsIds : Call → Prop
  | .update _ _ values => "_id" ∉ values.map Prod.fst
  | _ => True

-- A call that asks for fields by names that come back, if it asks for any.
def AsksSingle : Call → Prop
  | .read _ _ fields _ => Selection.AreSingle (fields.getD [])
  | .scan _ _ _ fields _ => Selection.AreSingle (fields.getD [])
  | _ => True

instance (call : Call) : Decidable call.AsksSingle :=
  match call with
  | .read .. | .scan .. => inferInstanceAs <| Decidable (Selection.AreSingle _)
  | .start | .stop | .insert .. | .update .. | .delete .. => inferInstanceAs <| Decidable True

end Bench.Call

namespace KeyedStore

open Bench (Call Delivery)

-- Copies the listed fields of the records of a table with an id, those of later ones over those of
-- earlier ones.
def read (table id : String) (fields : Option (List String)) (into : Record) (s : KeyedStore) :
    Status × Record :=
  match s.withId table id, fields with
  | [], _ => (.notFound, into)
  | _, none => (.ok, into)
  | found, some fields => (.ok, found.foldl (fun into r => into.update (r.pick fields)) into)

def scan (table start : String) (count : Nat) (fields : Option (List String)) (into : List Record)
    (s : KeyedStore) : Status × List Record :=
  match fields with
  | none => (.ok, into)
  | some fields => (.ok, into ++ (s.range table start count).map (·.pick fields))

structure Reply where
  result   : Except Failure (Option Status)
  delivery : Delivery
  store    : KeyedStore

-- Changes the store if all values are texts.
def write (values : List (String × FieldInput)) (change : Record → Status × KeyedStore)
    (s : KeyedStore) : Reply :=
  match Edit.texts values with
  | .error e => ⟨.error (.badBytes e), .nothing, s⟩
  | .ok fields =>
    let (status, s) := change (Entries.ofList fields)
    ⟨.ok status, .nothing, s⟩

theorem write_congr {values : List (String × FieldInput)} {f g : Record → Status × KeyedStore}
    (h : ∀ fields, Edit.texts values = .ok fields →
      f (Entries.ofList fields) = g (Entries.ofList fields)) (s : KeyedStore) :
    s.write values f = s.write values g := by
  unfold write
  cases ht : Edit.texts values
  case error => rfl
  case ok fields => simp only [h fields ht]

theorem write_mutate_create {values : List (String × FieldInput)}
    (hi : "_id" ∉ values.map Prod.fst) (ht : "_type" ∉ values.map Prod.fst) (mode : CreateMode)
    (table key : String) (s : KeyedStore) :
    s.write values (s.mutate (.create mode) table key ·) =
      s.write values (s.insert mode table key ·) := by
  refine write_congr (fun fields hf => ?_) s
  exact mutate_create mode table key (Edit.not_mem_ofList_texts hf hi)
    (Edit.not_mem_ofList_texts hf ht) (Entries.nodup_ofList fields) s

-- A call by a client that inserts in a mode. Starting and stopping clients is not up to the store.
def call (mode : CreateMode) (s : KeyedStore) : Call → Reply
  | .read table key fields into =>
    let (status, into) := s.read table key fields into
    ⟨.ok status, .record into, s⟩
  | .scan table start count fields into =>
    if count < 0 then ⟨.error (.badCount (.ofNegative count)), .records into, s⟩
    else
      let (status, into) := s.scan table start count.toNat fields into
      ⟨.ok status, .records into, s⟩
  | .insert table key values => s.write values (s.insert mode table key ·)
  | .update _ key values => s.write values (s.merge key ·)
  | .delete _ key =>
    let (status, s) := s.remove key
    ⟨.ok status, .nothing, s⟩
  | .start => ⟨.ok none, .nothing, s⟩
  | .stop => ⟨.ok none, .nothing, s⟩

theorem store_call_scan (s : KeyedStore) (mode : CreateMode) (table start : String) (count : Int)
    (fields : Option (List String)) (into : List Record) :
    (s.call mode (.scan table start count fields into)).store = s := by
  rw [call]
  split <;> rfl

def run (mode : String → CreateMode) (s : KeyedStore) :
    List (String × Call) → List (Call × Reply) × KeyedStore
  | [] => ([], s)
  | (name, c) :: calls =>
    let reply := s.call (mode name) c
    let (replies, s) := run mode reply.store calls
    ((c, reply) :: replies, s)

-- What a reply says of the answer to its call. It leaves the answer open if names are asked for
-- that do not come back.
def promise : Call × Reply → Option (Except Failure (Option Status) × Delivery)
  | (call, reply) => if call.AsksSingle then some (reply.result, reply.delivery) else none

-- As long as no record is given another id, each has its key for one.
theorem isKeyed_call {s : KeyedStore} (hs : s.IsKeyed) (mode : CreateMode) {call : Call}
    (hp : call.IsPlain) (hi : call.KeepsIds) : (s.call mode call).store.IsKeyed := by
  have hw {values : List (String × FieldInput)} (hv : "_id" ∉ values.map Prod.fst)
      (kind : MutationKind) (table key : String) :
      (s.write values (s.mutate kind table key ·)).store.IsKeyed := by
    unfold write
    cases ht : Edit.texts values
    case error => exact hs
    case ok =>
      exact isKeyed_mutate hs kind table key (Edit.isUnpaired_ofList_texts ht)
        (Edit.not_mem_ofList_texts ht hv)
  cases call
  case start => exact hs
  case stop => exact hs
  case read => exact hs
  case scan => rwa [store_call_scan]
  case insert table key values =>
    have hk := hw hp.left (.create mode) table key
    rwa [write_mutate_create hp.left hp.right] at hk
  case update table key values => exact hw hi .patch table key
  case delete table key =>
    have hn : "_id" ∉ ([] : Record).map Prod.fst := List.not_mem_nil
    exact isKeyed_mutate hs .delete table key (List.forall_mem_nil _) hn

theorem isKeyed_run {s : KeyedStore} (hs : s.IsKeyed) (mode : String → CreateMode)
    {calls : List (String × Call)} (h : ∀ e ∈ calls, e.2.IsPlain ∧ e.2.KeepsIds) :
    ∀ e ∈ (s.run mode calls).1, e.2.store.IsKeyed := by
  induction calls generalizing s
  case nil => exact List.forall_mem_nil _
  case cons e calls hi =>
    have ⟨⟨hp, hk⟩, h⟩ := List.forall_mem_cons.mp h
    have hs := isKeyed_call hs (mode e.1) hp hk
    exact List.forall_mem_cons.mpr ⟨hs, hi hs h⟩

end KeyedStore

end DocStore
