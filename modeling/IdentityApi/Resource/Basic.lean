import IdentityApi.Codec.Record

/-! # References and pages

Objects that refer to another one, and what happens to them when it goes; how policies combine; one
page of a list with what is said about the list.
-/
namespace IdentityApi

/-! ## References -/

open Codec

inductive UsedByAction where
  | cascade | cascadeMany | setNull | setDefault
  deriving DecidableEq, Repr

instance : Choice UsedByAction where
  all := [.cascade, .cascadeMany, .setNull, .setDefault]
  name
    | .cascade => "cascade"
    | .cascadeMany => "cascade_many"
    | .setNull => "set_null"
    | .setDefault => "set_default"

structure UsedBy where
  app : String
  modelName : String
  pk : String
  name : String
  action : UsedByAction

namespace UsedBy

def columns : List Column := [
  required "app" string,
  required "model_name" string,
  required "pk" string,
  required "name" string,
  required "action" (choice UsedByAction)]

def codec : Codec UsedBy := (row "UsedBy" columns).map
  (fun (app, modelName, pk, name, action, ()) =>
    ⟨app, modelName, pk, name, action⟩)
  (fun r => (r.app, r.modelName, r.pk, r.name, r.action, ()))

end UsedBy

inductive PolicyEngineMode where
  | all | any
  deriving DecidableEq, Repr

instance : Choice PolicyEngineMode where
  all := [.all, .any]
  name
    | .all => "all"
    | .any => "any"

/-! ## Pages -/

open Codec

/-- Zero stands for a page that does not exist. -/
structure PaginationMeta where
  next : UInt64 := 0
  previous : UInt64 := 0
  count : UInt64 := 0
  current : UInt64 := 0
  totalPages : UInt64 := 0
  startIndex : UInt64 := 0
  endIndex : UInt64 := 0
  deriving DecidableEq, Repr

namespace PaginationMeta

def columns : List Column := [
  withDefault "next" uint64 0,
  withDefault "previous" uint64 0,
  withDefault "count" uint64 0,
  withDefault "current" uint64 0,
  withDefault "total_pages" uint64 0,
  withDefault "start_index" uint64 0,
  withDefault "end_index" uint64 0]

def codec : Codec PaginationMeta := (row "PaginationMeta" columns).map
  (fun (next, previous, count, current, totalPages, startIndex, endIndex, ()) =>
    ⟨next, previous, count, current, totalPages, startIndex, endIndex⟩)
  (fun r => (r.next, r.previous, r.count, r.current, r.totalPages, r.startIndex, r.endIndex, ()))

def hasNext (m : PaginationMeta) : Bool := 0 < m.next

end PaginationMeta

structure Paginated (α : Type) where
  pagination : PaginationMeta := {}
  results : List α := []

namespace Paginated

variable {α : Type}

def columns (c : Codec α) : List Column := [
  withDefault "pagination" PaginationMeta.codec {},
  withDefault "results" (list c) []]

def codec (c : Codec α) : Codec (Paginated α) := (row "Paginated" (columns c)).map
  (fun (pagination, results, ()) => ⟨pagination, results⟩)
  (fun r => (r.pagination, r.results, ()))

def length (p : Paginated α) : Nat := p.results.length

def isEmpty (p : Paginated α) : Bool := p.results.isEmpty

end Paginated

end IdentityApi
