namespace ClientForge

variable {α β : Type}

abbrev Entries (α : Type) := List (String × α)

namespace Entries

def get? (entries : Entries α) (key : String) : Option α :=
  match entries with
  | [] => none
  | (k, v) :: rest => if k = key then some v else get? rest key

def contains (entries : Entries α) (key : String) : Bool :=
  (get? entries key).isSome

def put (entries : Entries α) (key : String) (value : α) : Entries α :=
  match entries with
  | [] => [(key, value)]
  | (k, v) :: rest => if k = key then (k, value) :: rest else (k, v) :: put rest key value

def putAll (entries other : Entries α) : Entries α :=
  other.foldl (fun e p => put e p.1 p.2) entries

def ofPairs (pairs : List (String × α)) : Entries α :=
  putAll [] pairs

def erase (entries : Entries α) (key : String) : Entries α :=
  entries.filter fun p => p.1 ≠ key

def keys (entries : Entries α) : List String :=
  entries.map Prod.fst

theorem get?_put_self (entries : Entries α) (key : String) (value : α) :
    get? (put entries key value) key = some value := by
  induction entries with
  | nil => simp [put, get?]
  | cons p rest ih => by_cases h : p.1 = key <;> simp [put, get?, h, ih]

theorem get?_put_of_ne (entries : Entries α) {key other : String} (value : α) (h : key ≠ other) :
    get? (put entries key value) other = get? entries other := by
  induction entries with
  | nil => simp [put, get?, h]
  | cons p rest ih =>
    by_cases hk : p.1 = key
    · simp [put, get?, hk, h]
    · by_cases ho : p.1 = other
      · simp [put, get?, ho, Ne.symm h]
      · simp [put, get?, hk, ho, ih]

end Entries

end ClientForge
