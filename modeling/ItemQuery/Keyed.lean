/-! Ordered tables: lists whose items carry a key.

`put` replaces the item of a key where it stands and appends a new key, so a table
filled by `ofList` holds each key once, at its first position, with its last item.
-/

set_option autoImplicit false

namespace ItemQuery.Keyed

variable {α κ : Type} [DecidableEq κ]

def get? (key : α → κ) (wanted : κ) : List α → Option α
  | [] => none
  | item :: rest => if key item = wanted then some item else get? key wanted rest

def put (key : α → κ) (new : α) : List α → List α
  | [] => [new]
  | item :: rest => if key item = key new then new :: rest else item :: put key new rest

def ofList (key : α → κ) (items : List α) : List α := items.foldl (fun table item => put key item table) []

theorem get?_put_self (key : α → κ) (new : α) (table : List α) : get? key (key new) (put key new table) = some new := by
  induction table with
  | nil => simp [put, get?]
  | cons item rest ih => by_cases same : key item = key new <;> simp [put, get?, same, ih]

theorem get?_put_of_ne (key : α → κ) (new : α) (table : List α) {wanted : κ} (other : key new ≠ wanted) :
    get? key wanted (put key new table) = get? key wanted table := by
  induction table with
  | nil => simp [put, get?, other]
  | cons item rest ih =>
    by_cases same : key item = key new
    · simp [put, get?, same, other]
    · rw [put, if_neg same, get?, get?, ih]

end ItemQuery.Keyed
