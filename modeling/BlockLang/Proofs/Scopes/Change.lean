-- SUMMARY: Requests carried out one change after the other, and why none is left half done.
import BlockLang.Proofs.Scopes.Step

namespace BlockLang

/-!
# Changes

A request either goes through and gives new scopes, or does not. Here a request is a series of single
changes instead, such as declaring a name and then describing what it stands for; a change that has
been made stays made, whatever goes wrong after it. Both come to the same: all that can go wrong is
found out before the first change.
-/

/-- A series of changes to the scopes, which a fault cuts short. -/
abbrev Change (α : Type) := ExceptT Scopes.Fault (StateM Scopes) α

namespace Change

/-- What is answered and which scopes are left, where a fault leaves the scopes `s`. -/
def settle {α : Type} (s : Scopes) : Except Scopes.Fault (α × Scopes) →
    Except Scopes.Fault α × Scopes
  | .ok (a, s') => (.ok a, s')
  | .error fault => (.error fault, s)

/-- Make a single change, if it can be made. -/
def once {α : Type} (change : Scopes → Except Scopes.Fault (α × Scopes)) : Change α :=
  ExceptT.mk fun s => settle s (change s)

/-- Find out something about the scopes, without a change. -/
def find {α : Type} (question : Scopes → Except Scopes.Fault α) : Change α :=
  ExceptT.mk fun s => (question s, s)

def define (name : NameId) : Change SymbolId :=
  once fun s => .ok (s.define name)

def modify (change : Scopes → Except Scopes.Fault Scopes) : Change Unit :=
  once fun s => (change s).map ((), ·)

/-- Declare a name, and then describe the type that it stands for. -/
def defineType (name : NameId) (descriptor : TypeDescriptor) : Change Scopes.Answer := do
  let id ← define name
  modify (·.setDescriptor id descriptor)
  return .symbol id

/-- The changes that make up a request. -/
def ofOperation : Scopes.Operation → Change Scopes.Answer
  | .defineVariable name type => do
    let id ← define name
    modify (·.setKind id .var)
    modify (·.setValueType id type)
    return .symbol id
  | .defineAlias name base => do
    let size ← find (·.typeSize base)
    defineType name (.aliasOf base size)
  | .defineArray name element count => do
    let elementSize ← find (·.typeSize element)
    let size ← find fun _ => Scopes.checkSize name (count * elementSize)
    defineType name (.arrayOf element count size)
  | .defineStruct name fields => do
    let size ← find (·.structSize name fields)
    defineType name (.structOf fields size)
  | operation => once (·.perform operation)

end Change

namespace Scopes

/-- Carry out a request change by change: what it is answered with, and the scopes it leaves. -/
def carryOut (s : Scopes) (operation : Operation) : Except Fault Answer × Scopes :=
  (Change.ofOperation operation).run.run s

/-! ## Series of changes -/

section Change

variable {α β : Type} {s s' : Scopes}

theorem run_bind_of_ok {change : Change α} {next : α → Change β} {a : α}
    (h : change.run.run s = (.ok a, s')) : (change >>= next).run.run s = (next a).run.run s' := by
  rw [ExceptT.run_bind, StateT.run_bind, h]
  rfl

theorem run_bind_of_error {change : Change α} {next : α → Change β} {fault : Fault}
    (h : change.run.run s = (.error fault, s')) :
    (change >>= next).run.run s = (.error fault, s') := by
  rw [ExceptT.run_bind, StateT.run_bind, h]
  rfl

/-- What is found out before a series of changes cuts it short only while nothing has changed. -/
theorem run_find_bind {question : Scopes → Except Fault α} {next : α → Change β}
    {result : α → Except Fault (β × Scopes)}
    (h : ∀ a, (next a).run.run s = Change.settle s (result a)) :
    (Change.find question >>= next).run.run s = Change.settle s (question s >>= result) := by
  have hrun : (Change.find question).run.run s = (question s, s) := rfl
  cases hquestion : question s with
  | ok a =>
    rw [hquestion] at hrun
    exact (run_bind_of_ok hrun).trans (h a)
  | error fault =>
    rw [hquestion] at hrun
    exact run_bind_of_error hrun

theorem run_modify {change : Scopes → Except Fault Scopes} (h : change s = .ok s') :
    (Change.modify change).run.run s = (.ok (), s') := by
  change Change.settle s ((change s).map ((), ·)) = _
  rw [h]
  rfl

end Change

/-! ## Describing what has just been declared -/

theorem push_modify {α : Type} (xs : Array α) (x : α) (f : α → α) :
    (xs.push x).modify xs.size f = xs.push (f x) := by
  apply Array.ext_getElem?
  intro i
  rw [Array.getElem?_modify, Array.getElem?_push, Array.getElem?_push]
  split <;> split <;> simp_all

/-- A symbol that has just been added can be changed, which comes to adding it like that. -/
theorem modify_add (s : Scopes) (name : NameId) (symbol : Symbol) (f : Symbol → Symbol) :
    (s.add name symbol).2.modify ⟨s.symbols.size⟩ f = .ok (s.add name (f symbol)).2 := by
  have hdeclared : s.symbols.size < (s.symbols.push symbol).size := by simp
  unfold modify add
  rw [if_pos hdeclared, push_modify]

theorem run_defineType (s : Scopes) (name : NameId) (descriptor : TypeDescriptor) :
    (Change.defineType name descriptor).run.run s =
      (.ok (.symbol ⟨s.symbols.size⟩), (s.defineType name descriptor).2) := by
  have hdefine : (Change.define name).run.run s = (.ok ⟨s.symbols.size⟩, (s.define name).2) := rfl
  have hdescribe : (Change.modify (·.setDescriptor ⟨s.symbols.size⟩ descriptor)).run.run
      (s.define name).2 = (.ok (), (s.defineType name descriptor).2) :=
    run_modify (modify_add s name _ _)
  unfold Change.defineType
  rw [run_bind_of_ok hdefine, run_bind_of_ok hdescribe]
  rfl

theorem run_defineVariable (s : Scopes) (name : NameId) (type : SymbolId) :
    (Change.ofOperation (.defineVariable name type)).run.run s =
      (.ok (.symbol ⟨s.symbols.size⟩), (s.defineVariable name type).2) := by
  have hdefine : (Change.define name).run.run s = (.ok ⟨s.symbols.size⟩, (s.define name).2) := rfl
  have hkind : (Change.modify (·.setKind ⟨s.symbols.size⟩ .var)).run.run (s.define name).2 =
      (.ok (), (s.add name { name, kind := .var }).2) := run_modify (modify_add s name _ _)
  have htype : (Change.modify (·.setValueType ⟨s.symbols.size⟩ type)).run.run
      (s.add name { name, kind := .var }).2 = (.ok (), (s.defineVariable name type).2) :=
    run_modify (modify_add s name _ _)
  unfold Change.ofOperation
  rw [run_bind_of_ok hdefine, run_bind_of_ok hkind, run_bind_of_ok htype]
  rfl

/-! ## Requests that find out a size first -/

theorem perform_defineAlias (s : Scopes) (name : NameId) (base : SymbolId) :
    s.perform (.defineAlias name base) = s.typeSize base >>= fun size =>
      .ok ((s.defineType name (.aliasOf base size)).map .symbol id) :=
  map_bind (Prod.map Answer.symbol id) (s.typeSize base) fun size =>
    .ok (s.defineType name (.aliasOf base size))

theorem perform_defineArray (s : Scopes) (name : NameId) (element : SymbolId) (count : Nat) :
    s.perform (.defineArray name element count) = s.typeSize element >>= fun elementSize =>
      checkSize name (count * elementSize) >>= fun size =>
        .ok ((s.defineType name (.arrayOf element count size)).map .symbol id) :=
  (map_bind (Prod.map Answer.symbol id) (s.typeSize element) _).trans
    (bind_congr fun elementSize =>
      map_bind (Prod.map Answer.symbol id) (checkSize name (count * elementSize)) fun size =>
        .ok (s.defineType name (.arrayOf element count size)))

theorem perform_defineStruct (s : Scopes) (name : NameId) (fields : List SymbolId) :
    s.perform (.defineStruct name fields) = s.structSize name fields >>= fun size =>
      .ok ((s.defineType name (.structOf fields size)).map .symbol id) :=
  map_bind (Prod.map Answer.symbol id) (s.structSize name fields) fun size =>
    .ok (s.defineType name (.structOf fields size))

/-- Carried out change by change, a request that goes through leaves the scopes that it gives, and
one that does not leaves everything as it was. -/
theorem carryOut_eq (s : Scopes) (operation : Operation) :
    s.carryOut operation = Change.settle s (s.perform operation) := by
  cases operation with
  | openBlock | closeBlock | define | setKind | setDescriptor | setValueType => rfl
  | defineVariable name type => exact run_defineVariable s name type
  | defineAlias name base =>
    rw [perform_defineAlias]
    exact run_find_bind fun size => run_defineType s name _
  | defineArray name element count =>
    rw [perform_defineArray]
    exact run_find_bind fun elementSize => run_find_bind fun size => run_defineType s name _
  | defineStruct name fields =>
    rw [perform_defineStruct]
    exact run_find_bind fun size => run_defineType s name _

theorem carryOut_snd (s : Scopes) (operation : Operation) :
    (s.carryOut operation).2 = s.after operation := by
  rw [carryOut_eq]
  unfold after Change.settle
  cases s.perform operation <;> rfl

end Scopes

end BlockLang
