/-!
# Tables

A finite table from keys to rows, kept as the list of its entries in the order in which the keys
were first put in; nobody may rely on this order. Looking up after an insertion is settled by
`Table.get?_insert`.
-/

namespace RiskReport

/-- A finite table. -/
structure Table (κ ν : Type) where
  entries : List (κ × ν)
  deriving DecidableEq, Repr, Inhabited

namespace Table

variable {κ ν : Type} [DecidableEq κ]

/-- The table without rows. -/
def empty : Table κ ν := ⟨[]⟩

/-- The row of a key among some entries. -/
def lookupEntry (k : κ) : List (κ × ν) → Option ν
  | [] => none
  | (k', v) :: rest => if k = k' then some v else lookupEntry k rest

/-- The row of a key. -/
def get? (t : Table κ ν) (k : κ) : Option ν :=
  lookupEntry k t.entries

/-- Put a row into entries in place of the old row of its key, or at the end. -/
def insertEntry (k : κ) (v : ν) : List (κ × ν) → List (κ × ν)
  | [] => [(k, v)]
  | (k', v') :: rest => if k = k' then (k, v) :: rest else (k', v') :: insertEntry k v rest

/-- Put a row into the table in place of the old row of its key. -/
def insert (t : Table κ ν) (k : κ) (v : ν) : Table κ ν :=
  ⟨insertEntry k v t.entries⟩

/-- Whether the table has a row for a key. -/
def contains (t : Table κ ν) (k : κ) : Bool :=
  (t.get? k).isSome

/-- The rows in the order of their keys' first insertion. -/
def rows (t : Table κ ν) : List ν :=
  t.entries.map (·.2)

/-- The keys with the rows that are found for them, in the order of the entries. These are the
entries themselves if no key occurs twice. -/
def pairs (t : Table κ ν) : List (κ × ν) :=
  t.entries.filterMap fun (k, _) => (t.get? k).map (k, ·)

@[simp] theorem get?_empty (k : κ) : (empty : Table κ ν).get? k = none := rfl

theorem lookupEntry_insertEntry (k l : κ) (v : ν) (es : List (κ × ν)) :
    lookupEntry l (insertEntry k v es) = if l = k then some v else lookupEntry l es := by
  induction es with
  | nil => simp [insertEntry, lookupEntry]
  | cons e es ih =>
    obtain ⟨k', v'⟩ := e
    by_cases hk : k = k'
    · subst hk
      by_cases h : l = k <;> simp [insertEntry, lookupEntry, h]
    · by_cases h : l = k'
      · subst h
        simp [insertEntry, lookupEntry, hk, Ne.symm hk]
      · simp [insertEntry, lookupEntry, hk, h, ih]

@[simp] theorem get?_insert (t : Table κ ν) (k l : κ) (v : ν) :
    (t.insert k v).get? l = if l = k then some v else t.get? l :=
  lookupEntry_insertEntry k l v t.entries

end Table

end RiskReport
