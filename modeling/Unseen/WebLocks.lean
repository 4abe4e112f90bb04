import Mathlib.Data.List.Basic

namespace WebLocks

/-!
# Named locks with shared and exclusive holders

A manager grants the requests for each name in the order they were made.  An
exclusive lock is held alone, shared ones together.  A lock is held until it is
released or its client is gone; a query lists the names that are held or
requested.
-/

inductive Mode where
  | shared
  | exclusive
  deriving DecidableEq

/-- A request for a lock, and later the lock it was granted. -/
structure Request (Id Client Name : Type) where
  id : Id
  client : Client
  name : Name
  mode : Mode
  deriving DecidableEq

structure Manager (Id Client Name : Type) where
  held : List (Request Id Client Name)
  pending : List (Request Id Client Name)
  deriving DecidableEq

/-- Locks of one name are held together only if both are shared. -/
def Compatible {Id Client Name : Type} (first second : Request Id Client Name) : Prop :=
  first.name = second.name → first.mode = .shared ∧ second.mode = .shared

namespace Manager

variable {Id Client Name : Type} [DecidableEq Id] [DecidableEq Client] [DecidableEq Name]

instance (first second : Request Id Client Name) : Decidable (Compatible first second) :=
  inferInstanceAs (Decidable (_ → _))

def empty : Manager Id Client Name where
  held := []
  pending := []

def request (manager : Manager Id Client Name) (request : Request Id Client Name) :
    Manager Id Client Name :=
  { manager with pending := manager.pending ++ [request] }

/-- The request is the first one for its name and fits all holders. -/
def Grantable (manager : Manager Id Client Name) (request : Request Id Client Name) : Prop :=
  manager.pending.find? (fun other => other.name = request.name) = some request ∧
    ∀ holder ∈ manager.held, Compatible holder request

instance (manager : Manager Id Client Name) (request : Request Id Client Name) :
    Decidable (manager.Grantable request) :=
  inferInstanceAs (Decidable (_ ∧ _))

def grant (manager : Manager Id Client Name) (request : Request Id Client Name) :
    Manager Id Client Name where
  held := manager.held ++ [request]
  pending := manager.pending.erase request

def release (manager : Manager Id Client Name) (id : Id) : Manager Id Client Name :=
  { manager with held := manager.held.filter (fun holder => holder.id ≠ id) }

/-- A client is gone, and with it its locks and requests. -/
def drop (manager : Manager Id Client Name) (client : Client) : Manager Id Client Name where
  held := manager.held.filter (fun holder => holder.client ≠ client)
  pending := manager.pending.filter (fun request => request.client ≠ client)

/-- The names a query lists. -/
def names (manager : Manager Id Client Name) : List Name :=
  manager.held.map Request.name ++ manager.pending.map Request.name

/-- Nobody shares a name with the holder of an exclusive lock. -/
def Lawful (manager : Manager Id Client Name) : Prop :=
  ∀ first ∈ manager.held, ∀ second ∈ manager.held,
    first.name = second.name → first.mode = .exclusive → first.id = second.id

/-- The request is known to the manager: it is pending, or its lock is held. -/
def Listed (manager : Manager Id Client Name) (request : Request Id Client Name) : Prop :=
  request ∈ manager.held ∨ request ∈ manager.pending

end Manager

namespace Manager

section Listing

variable {Id Client Name : Type} {manager : Manager Id Client Name}
  {entry : Request Id Client Name}

theorem Listed.name_mem (listed : manager.Listed entry) : entry.name ∈ manager.names := by
  rcases listed with isHeld | isPending
  · exact List.mem_append_left _ (List.mem_map_of_mem isHeld)
  · exact List.mem_append_right _ (List.mem_map_of_mem isPending)

theorem Listed.request (listed : manager.Listed entry) (other : Request Id Client Name) :
    (manager.request other).Listed entry :=
  listed.imp (fun isHeld => isHeld) (List.mem_append_left _)

theorem listed_of_request : (manager.request entry).Listed entry :=
  .inr (List.mem_append_right _ List.mem_cons_self)

theorem Listed.grant
    [DecidableEq Id] [DecidableEq Client] [DecidableEq Name]
    (listed : manager.Listed entry)
    (other : Request Id Client Name) :
    (manager.grant other).Listed entry := by
  rcases listed with isHeld | isPending
  · exact .inl (List.mem_append_left _ isHeld)
  · by_cases isOther : entry = other
    · exact .inl (List.mem_append_right _ (List.mem_singleton.mpr isOther))
    · exact .inr ((List.mem_erase_of_ne isOther).mpr isPending)

theorem Listed.release
    [DecidableEq Id]
    {id : Id}
    (listed : manager.Listed entry)
    (otherId : entry.id ≠ id) :
    (manager.release id).Listed entry :=
  listed.imp (fun isHeld => List.mem_filter.mpr ⟨isHeld, by simpa using otherId⟩)
    (fun isPending => isPending)

theorem Listed.drop
    [DecidableEq Client]
    {client : Client}
    (listed : manager.Listed entry)
    (otherClient : entry.client ≠ client) :
    (manager.drop client).Listed entry :=
  listed.imp (fun isHeld => List.mem_filter.mpr ⟨isHeld, by simpa using otherClient⟩)
    (fun isPending => List.mem_filter.mpr ⟨isPending, by simpa using otherClient⟩)

/-! ### Nothing is listed that was not requested -/

theorem listed_request {other : Request Id Client Name}
    (listed : (manager.request other).Listed entry) :
    manager.Listed entry ∨ entry = other := by
  rcases listed with isHeld | isPending
  · exact .inl (.inl isHeld)
  · rcases List.mem_append.mp isPending with wasPending | isNew
    · exact .inl (.inr wasPending)
    · exact .inr (List.mem_singleton.mp isNew)

theorem listed_grant
    [DecidableEq Id] [DecidableEq Client] [DecidableEq Name]
    {other : Request Id Client Name}
    (listed : (manager.grant other).Listed entry)
    (isPending : other ∈ manager.pending) :
    manager.Listed entry := by
  rcases listed with isHeld | stillPending
  · rcases List.mem_append.mp isHeld with wasHeld | isNew
    · exact .inl wasHeld
    · exact .inr (List.mem_singleton.mp isNew ▸ isPending)
  · exact .inr (List.mem_of_mem_erase stillPending)

theorem listed_release [DecidableEq Id] {id : Id}
    (listed : (manager.release id).Listed entry) :
    manager.Listed entry :=
  listed.imp (fun isHeld => (List.mem_filter.mp isHeld).1) (fun isPending => isPending)

theorem listed_drop [DecidableEq Client] {client : Client}
    (listed : (manager.drop client).Listed entry) :
    manager.Listed entry :=
  listed.imp (fun isHeld => (List.mem_filter.mp isHeld).1)
    (fun isPending => (List.mem_filter.mp isPending).1)

end Listing

section Exclusion

variable {Id Client Name : Type} {manager : Manager Id Client Name}
  {entry : Request Id Client Name}

theorem Grantable.mem_pending [DecidableEq Name] (grantable : manager.Grantable entry) :
    entry ∈ manager.pending :=
  List.mem_of_find?_eq_some grantable.1

/-- Fewer holders are still lawful. -/
theorem Lawful.mono
    {fewer : Manager Id Client Name}
    (lawful : manager.Lawful)
    (sub : ∀ holder ∈ fewer.held, holder ∈ manager.held) :
    fewer.Lawful :=
  fun first isFirst second isSecond =>
    lawful first (sub first isFirst) second (sub second isSecond)

theorem Lawful.release [DecidableEq Id] (lawful : manager.Lawful) (id : Id) : (manager.release id).Lawful :=
  lawful.mono fun _ isHeld => (List.mem_filter.mp isHeld).1

theorem Lawful.drop [DecidableEq Client] (lawful : manager.Lawful) (client : Client) :
    (manager.drop client).Lawful :=
  lawful.mono fun _ isHeld => (List.mem_filter.mp isHeld).1

/-- A granted lock is compatible with all others, so it is exclusive only alone. -/
theorem Lawful.grant
    [DecidableEq Id] [DecidableEq Client] [DecidableEq Name]
    (lawful : manager.Lawful)
    (grantable : manager.Grantable entry) :
    (manager.grant entry).Lawful := by
  intro first isFirst second isSecond sameName isExclusive
  rcases List.mem_append.mp isFirst with wasFirst | isNewFirst
  · rcases List.mem_append.mp isSecond with wasSecond | isNewSecond
    · exact lawful first wasFirst second wasSecond sameName isExclusive
    · rw [List.mem_singleton.mp isNewSecond] at sameName
      have isShared := (grantable.2 first wasFirst sameName).1
      rw [isExclusive] at isShared
      cases isShared
  · rcases List.mem_append.mp isSecond with wasSecond | isNewSecond
    · rw [List.mem_singleton.mp isNewFirst] at sameName isExclusive
      have isShared := (grantable.2 second wasSecond sameName.symm).2
      rw [isExclusive] at isShared
      cases isShared
    · rw [List.mem_singleton.mp isNewFirst, List.mem_singleton.mp isNewSecond]

end Exclusion

end Manager

end WebLocks
