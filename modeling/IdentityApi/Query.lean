import IdentityApi.Text.Basic
import IdentityApi.Text.Percent
import IdentityApi.Uuid

/-! # Queries

Keys and values in the order in which they were pushed. Absent and empty values leave nothing;
`text` writes the entries with percent-encoded values. Every filter of a list ends with its paging.
-/
namespace IdentityApi

/-! ## Query parameters -/

/-- Values that a query can hold, as the text before encoding. -/
class QueryValue (α : Type) where
  text : α → String

instance : QueryValue String := ⟨fun s => s⟩
instance : QueryValue Bool := ⟨fun b => if b then "true" else "false"⟩
instance : QueryValue Int := ⟨fun n => n.repr⟩
instance : QueryValue Int64 := ⟨fun n => n.toInt.repr⟩
instance : QueryValue UInt32 := ⟨fun n => n.toNat.repr⟩
instance : QueryValue Uuid := ⟨Uuid.text⟩
instance {α : Type} [Choice α] : QueryValue α := ⟨Choice.name⟩

structure Query where
  entries : List (String × String) := []
  deriving DecidableEq, Repr

namespace Query

variable {α : Type} [QueryValue α]

def empty : Query := ⟨[]⟩

/-- What a value leaves under a key. -/
def entry (key : String) : Option α → List (String × String)
  | none => []
  | some a => if QueryValue.text a = "" then [] else [(key, QueryValue.text a)]

/-- What several values leave under one key. -/
def entryAll (key : String) (values : List α) : List (String × String) :=
  values.flatMap fun a => entry key (some a)

def push (q : Query) (key : String) (value : Option α) : Query := ⟨q.entries ++ entry key value⟩

def pushAll (q : Query) (key : String) (values : List α) : Query :=
  ⟨q.entries ++ entryAll key values⟩

/-- The first value of a key. -/
def get? (q : Query) (key : String) : Option String := q.entries.lookup key

def length (q : Query) : Nat := q.entries.length

def isEmpty (q : Query) : Bool := q.entries.isEmpty

def entryText (e : String × String) : String := e.1 ++ "=" ++ Percent.encodeValue e.2

/-- The entries as `key=value`, joined by `&`. -/
def text (q : Query) : String := "&".intercalate (q.entries.map entryText)

@[simp] theorem entries_push (q : Query) (key : String) (value : Option α) :
    (q.push key value).entries = q.entries ++ entry key value := rfl

@[simp] theorem entries_pushAll (q : Query) (key : String) (values : List α) :
    (q.pushAll key values).entries = q.entries ++ entryAll key values := rfl

end Query

/-! ## Paging -/

structure Paging where
  ordering : Option String := none
  /-- Counted from one. -/
  page : Option UInt32 := none
  pageSize : Option UInt32 := none
  search : Option String := none
  deriving DecidableEq, Repr

namespace Paging

/-- One page of a size. -/
def ofPage (page pageSize : UInt32) : Paging := { page := some page, pageSize := some pageSize }

def entries (p : Paging) : List (String × String) :=
  Query.entry "ordering" p.ordering ++ Query.entry "page" p.page ++
    Query.entry "page_size" p.pageSize ++ Query.entry "search" p.search

end Paging

end IdentityApi
