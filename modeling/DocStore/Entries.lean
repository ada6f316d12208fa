namespace DocStore

abbrev Entries (κ α : Type) := List (κ × α)

namespace Entries

variable {κ α : Type} [BEq κ]

def get? : Entries κ α → κ → Option α
  | [], _ => none
  | (k', v) :: rest, k => if k == k' then some v else get? rest k

def has (d : Entries κ α) (k : κ) : Bool :=
  (d.get? k).isSome

def put (k : κ) (v : α) : Entries κ α → Entries κ α
  | [] => [(k, v)]
  | (k', v') :: rest => if k == k' then (k', v) :: rest else (k', v') :: put k v rest

def erase (d : Entries κ α) (k : κ) : Entries κ α :=
  d.filter fun entry => !(k == entry.1)

def update (d : Entries κ α) (entries : List (κ × α)) : Entries κ α :=
  entries.foldl (fun d entry => put entry.1 entry.2 d) d

-- The dictionary that a list of entries builds up: the first place of a key, its last value.
def ofList (entries : List (κ × α)) : Entries κ α :=
  update [] entries

@[simp] theorem update_nil (d : Entries κ α) : update d [] = d :=
  rfl

theorem get?_put_self [ReflBEq κ] (d : Entries κ α) (k : κ) (v : α) :
    get? (put k v d) k = some v := by
  induction d with
  | nil => simp [put, get?]
  | cons e d ih => cases h : k == e.1 <;> simp [put, get?, h, ih]

theorem get?_put_of_beq_false [PartialEquivBEq κ] (d : Entries κ α) {k k' : κ} (v : α)
    (h : (k' == k) = false) : get? (put k v d) k' = get? d k' := by
  induction d with
  | nil => simp [put, get?, h]
  | cons e d ih =>
    cases he : k == e.1
    · simp [put, get?, he, ih]
    · have hne : (k' == e.1) = false := by
        cases hk : k' == e.1
        case false => rfl
        case true => rw [← h, PartialEquivBEq.trans hk (PartialEquivBEq.symm he)]
      simp [put, get?, he, hne]

-- Where a key stands does not depend on what is written to it.
theorem keys_put_of_has {d : Entries κ α} {k : κ} (v : α) (h : has d k = true) :
    (put k v d).map Prod.fst = d.map Prod.fst := by
  induction d with
  | nil => simp [has, get?] at h
  | cons e d ih =>
    cases he : k == e.1
    · have h' : has d k = true := by simpa [has, get?, he] using h
      simp [put, he, ih h']
    · simp [put, he]

theorem get?_erase_self (d : Entries κ α) (k : κ) : get? (erase d k) k = none := by
  induction d with
  | nil => rfl
  | cons e d ih => cases h : k == e.1 <;> simp_all [erase, get?]

end Entries

-- The first of some things that goes by a name.
def named? {α : Type} (name : α → String) (all : List α) (text : String) : Option α :=
  all.find? fun a => name a = text

-- Where each of them is found by its own name, it is found by no other.
theorem named?_eq_some {α : Type} {name : α → String} {all : List α}
    (h : ∀ a, named? name all (name a) = some a) {text : String} {a : α} :
    named? name all text = some a ↔ text = name a where
  mp ht := by simpa [eq_comm] using List.find?_some ht
  mpr ht := ht ▸ h a

end DocStore
