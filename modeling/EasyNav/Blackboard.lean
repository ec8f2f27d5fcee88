import EasyNav.Runs
import EasyNav.TypedStores

/-!
The blackboard with its four maps. The keys of a group are recorded before they are stored as
a value, under a key that may hold a value of another type already.
-/

namespace EasyNav.Blackboard

open EasyNav.Runs
open EasyNav.TypedStores

universe u v

/-- `typeid(T)`, with the name that `demangle` gives it. -/
structure TypeInfo where
  hashCode : Nat
  name : String
  deriving DecidableEq

/-- What a shared pointer, which is not null, points to. -/
inductive Object (α : Type u) where
  | strings (keys : List String)
  | other (data : α)
  deriving DecidableEq

/-- The objects are shared with the callers; `allocated` of them have been made. -/
structure NavState (α : Type u) where
  memory : Nat → Object α
  allocated : Nat
  values : String → Option Nat := fun _ => none
  types : String → Option Nat := fun _ => none
  typeNames : String → Option String := fun _ => none
  groups : String → Option (List String) := fun _ => none

/-- `operator[]` of a map: the value, which it inserts if it is missing, and the map. -/
def index {β : Type v} (m : String → Option β) (missing : β) (key : String) :
    β × (String → Option β) :=
  ((m key).getD missing, Function.update m key (some ((m key).getD missing)))

namespace NavState

variable {α : Type u}

def insert (nav : NavState α) (key : String) (type : TypeInfo) (ptr : Nat) : NavState α :=
  { nav with
    values := Function.update nav.values key (some ptr)
    types := Function.update nav.types key (some type.hashCode)
    typeNames := Function.update nav.typeNames key (some type.name) }

def mismatchText (key stored provided stacktrace : String) : String :=
  "Type mismatch in set(\"" ++ key ++ "\")\n  stored type  : " ++ stored ++
    "\n  provided type: " ++ provided ++ "\nBacktrace:\n" ++ stacktrace

def checkType (nav : NavState α) (key : String) (type : TypeInfo) (stacktrace : String) :
    Attempt (NavState α) String Unit :=
  let (hash, types) := index nav.types 0 key
  let nav := { nav with types := types }
  if hash ≠ type.hashCode then
    let (stored, typeNames) := index nav.typeNames "" key
    ({ nav with typeNames := typeNames },
      .error (mismatchText key stored type.name stacktrace))
  else (nav, .ok ())

/-- A value that is there is overwritten in place. -/
def set (nav : NavState α) (key : String) (type : TypeInfo) (value : Object α)
    (stacktrace : String) : Attempt (NavState α) String Unit :=
  match nav.values key with
  | none =>
      let made := { nav with
        memory := Function.update nav.memory nav.allocated value
        allocated := nav.allocated + 1 }
      (made.insert key type nav.allocated, .ok ())
  | some ptr =>
      (nav.checkType key type stacktrace).andThen fun nav _ =>
        ({ nav with memory := Function.update nav.memory ptr value }, .ok ())

/-- `set` of a pointer, which replaces the one that is there. -/
def setPtr (nav : NavState α) (key : String) (type : TypeInfo) (valuePtr : Nat)
    (stacktrace : String) : Attempt (NavState α) String Unit :=
  match nav.values key with
  | none => (nav.insert key type valuePtr, .ok ())
  | some _ =>
      (nav.checkType key type stacktrace).andThen fun nav _ =>
        ({ nav with values := Function.update nav.values key (some valuePtr) }, .ok ())

section Groups

variable (vectorOfStrings : TypeInfo)

def setGroup (nav : NavState α) (key : String) (groupKeys : List String) (stacktrace : String) :
    Attempt (NavState α) String Unit :=
  let nav := { nav with groups := Function.update nav.groups key (some groupKeys) }
  nav.set key vectorOfStrings (.strings groupKeys) stacktrace

def addToGroup (nav : NavState α) (groupKey key stacktrace : String) :
    Attempt (NavState α) String Unit :=
  let (members, groups) := index nav.groups [] groupKey
  let nav := { nav with groups := groups }
  if key ∈ members then (nav, .ok ())
  else
    let members := members ++ [key]
    let nav := { nav with groups := Function.update nav.groups groupKey (some members) }
    nav.set groupKey vectorOfStrings (.strings members) stacktrace

end Groups

def has (nav : NavState α) (key : String) : Bool := (nav.values key).isSome

def hasGroup (nav : NavState α) (key : String) : Bool := (nav.groups key).isSome

def getGroupKeys (nav : NavState α) (groupKey : String) : List String :=
  (nav.groups groupKey).getD []

def get (nav : NavState α) (key : String) (type : TypeInfo) : Except String (Object α) :=
  match nav.values key with
  | none => .error ("Key not found in get: " ++ key)
  | some ptr =>
      match nav.types key, nav.typeNames key with
      | some hash, some stored =>
          if hash ≠ type.hashCode then
            .error ("Type mismatch in get(\"" ++ key ++ "\")\n  stored type   : " ++ stored ++
              "\n  requested type: " ++ type.name)
          else .ok (nav.memory ptr)
      -- `at` of a map without the key
      | _, _ => .error "_Map_base::at"

/-- What the three maps of the values know is the same. -/
def SameKeys (nav : NavState α) : Prop :=
  ∀ key, (nav.types key).isSome = (nav.values key).isSome ∧
    (nav.typeNames key).isSome = (nav.values key).isSome

structure SameAnswers (a b : NavState α) : Prop where
  has : ∀ key, a.has key = b.has key
  get : ∀ key type, a.get key type = b.get key type
  getGroupKeys : ∀ key, a.getGroupKeys key = b.getGroupKeys key
  hasGroup : ∀ key, a.hasGroup key = b.hasGroup key

/-- The key holds a value of another type. -/
def Refuses (nav : NavState α) (key : String) (type : TypeInfo) : Prop :=
  ∃ hash, nav.types key = some hash ∧ hash ≠ type.hashCode

end NavState

open NavState

/-- The blackboard, and the keys that were set directly. -/
structure Board (α : Type u) where
  nav : NavState α
  direct : List String := []

inductive Call (α : Type u) where
  | set (key : String) (type : TypeInfo) (value : Object α) (stacktrace : String)
  | setPtr (key : String) (type : TypeInfo) (valuePtr : Nat) (stacktrace : String)
  | setGroup (key : String) (groupKeys : List String) (stacktrace : String)
  | addToGroup (groupKey key stacktrace : String)

namespace Board

variable {α : Type u} (vectorOfStrings : TypeInfo)

def after (board : Board α) (keys : List String) (attempt : Attempt (NavState α) String Unit) :
    Attempt (Board α) String Unit :=
  match attempt with
  | (nav, .ok ()) => ({ nav := nav, direct := keys ++ board.direct }, .ok ())
  | (nav, .error what) => ({ board with nav := nav }, .error what)

/-- There is no pointer to what has not been made. -/
def attempt (board : Board α) : Call α → Attempt (Board α) String Unit
  | .set key type value stacktrace =>
      board.after [key] (board.nav.set key type value stacktrace)
  | .setPtr key type valuePtr stacktrace =>
      if valuePtr < board.nav.allocated then
        board.after [key] (board.nav.setPtr key type valuePtr stacktrace)
      else (board, .ok ())
  | .setGroup key groupKeys stacktrace =>
      board.after [] (board.nav.setGroup vectorOfStrings key groupKeys stacktrace)
  | .addToGroup groupKey key stacktrace =>
      board.after [] (board.nav.addToGroup vectorOfStrings groupKey key stacktrace)

def step (board : Board α) (call : Call α) : Board α := (board.attempt vectorOfStrings call).1

/-- Empty, with any objects that its callers have. -/
def IsNew (board : Board α) : Prop :=
  ∃ memory allocated, board = { nav := { memory := memory, allocated := allocated } }

/-- The keys of every group are its value too. -/
def GroupsStored (board : Board α) : Prop :=
  ∀ key groupKeys, board.nav.groups key = some groupKeys → key ∉ board.direct →
    board.nav.get key vectorOfStrings = .ok (.strings groupKeys)

/-- Overwriting the value of this key changes the keys of another group, whose value is the
same object. -/
def Clobbers (board : Board α) (key : String) (type : TypeInfo) (value : Object α) : Prop :=
  ∃ ptr other groupKeys, board.nav.values key = some ptr ∧
    board.nav.types key = some type.hashCode ∧ other ≠ key ∧
    board.nav.values other = some ptr ∧ board.nav.groups other = some groupKeys ∧
    other ∉ board.direct ∧ value ≠ .strings groupKeys

/-- No group is recorded that cannot be stored, and no other one is overwritten. -/
def Careful (board : Board α) : Call α → Prop
  | .set key type value _ => ¬ board.Clobbers key type value
  | .setPtr _ _ _ _ => True
  | .setGroup key groupKeys _ =>
      (board.nav.Refuses key vectorOfStrings → board.nav.groups key = some groupKeys) ∧
        ¬ board.Clobbers key vectorOfStrings (.strings groupKeys)
  | .addToGroup groupKey key _ =>
      key ∉ board.nav.getGroupKeys groupKey →
        ¬ board.nav.Refuses groupKey vectorOfStrings ∧
          ¬ board.Clobbers groupKey vectorOfStrings
            (.strings (board.nav.getGroupKeys groupKey ++ [key]))

end Board

section Values

variable {α : Type u} {nav : NavState α} {key : String} {type : TypeInfo}

theorem index_of_some {β : Type v} {m : String → Option β} {missing value : β}
    (h : m key = some value) : index m missing key = (value, m) := by
  rw [index, h, Option.getD_some, ← h, Function.update_eq_self]

theorem checkType_of_fits (htype : nav.types key = some type.hashCode) (stacktrace : String) :
    nav.checkType key type stacktrace = (nav, .ok ()) := by
  rw [checkType, index_of_some htype]
  exact if_neg (not_not.mpr rfl)

/-- A key whose type is known has a name for it, so that looking it up adds nothing. -/
theorem checkType_of_refuses (hkeys : nav.SameKeys) (h : nav.Refuses key type)
    (stacktrace : String) :
    ∃ what, nav.checkType key type stacktrace = (nav, .error what) := by
  obtain ⟨hash, hhash, hne⟩ := h
  have hnamed : (nav.typeNames key).isSome := by
    rw [(hkeys key).2, ← (hkeys key).1, hhash]
    rfl
  obtain ⟨stored, hstored⟩ := Option.isSome_iff_exists.mp hnamed
  rw [checkType, index_of_some hhash]
  dsimp only
  rw [if_pos hne, index_of_some hstored]
  exact ⟨_, rfl⟩

variable {value : Object α} {stacktrace : String} {ptr : Nat}

theorem set_of_none (h : nav.values key = none) :
    nav.set key type value stacktrace =
      ({ nav with
          memory := Function.update nav.memory nav.allocated value
          allocated := nav.allocated + 1 }.insert key type nav.allocated, .ok ()) := by
  rw [NavState.set, h]

theorem set_of_fits (h : nav.values key = some ptr) (htype : nav.types key = some type.hashCode) :
    nav.set key type value stacktrace =
      ({ nav with memory := Function.update nav.memory ptr value }, .ok ()) := by
  rw [NavState.set, h]
  dsimp only
  rw [checkType_of_fits htype]
  rfl

theorem values_of_types (hkeys : nav.SameKeys) {hash : Nat} (h : nav.types key = some hash) :
    ∃ ptr, nav.values key = some ptr := by
  rw [← Option.isSome_iff_exists, ← (hkeys key).1, h]
  rfl

theorem refused (hkeys : nav.SameKeys) (h : nav.Refuses key type) (stacktrace : String) :
    ∃ ptr what, nav.values key = some ptr ∧
      nav.checkType key type stacktrace = (nav, .error what) := by
  obtain ⟨ptr, hptr⟩ := values_of_types hkeys h.choose_spec.1
  obtain ⟨what, hwhat⟩ := checkType_of_refuses hkeys h stacktrace
  exact ⟨ptr, what, hptr, hwhat⟩

theorem set_of_refuses (hkeys : nav.SameKeys) (h : nav.Refuses key type) (value : Object α)
    (stacktrace : String) :
    ∃ what, nav.set key type value stacktrace = (nav, .error what) := by
  obtain ⟨ptr, what, hptr, hwhat⟩ := refused hkeys h stacktrace
  refine ⟨what, ?_⟩
  rw [NavState.set, hptr]
  dsimp only
  rw [hwhat]
  rfl

theorem setPtr_of_refuses (hkeys : nav.SameKeys) (h : nav.Refuses key type) (valuePtr : Nat)
    (stacktrace : String) :
    ∃ what, nav.setPtr key type valuePtr stacktrace = (nav, .error what) := by
  obtain ⟨ptr, what, hptr, hwhat⟩ := refused hkeys h stacktrace
  refine ⟨what, ?_⟩
  rw [NavState.setPtr, hptr]
  dsimp only
  rw [hwhat]
  rfl

theorem free_or_fits_or_refuses (hkeys : nav.SameKeys) (key : String) (type : TypeInfo) :
    nav.values key = none ∨
      (∃ ptr, nav.values key = some ptr ∧ nav.types key = some type.hashCode) ∨
        nav.Refuses key type := by
  cases hptr : nav.values key with
  | none => exact .inl rfl
  | some ptr =>
      have htyped : (nav.types key).isSome := by
        rw [(hkeys key).1, hptr]
        rfl
      obtain ⟨hash, hhash⟩ := Option.isSome_iff_exists.mp htyped
      by_cases heq : hash = type.hashCode
      · exact .inr (.inl ⟨ptr, rfl, by rw [hhash, heq]⟩)
      · exact .inr (.inr ⟨hash, hhash, heq⟩)

theorem not_refuses_of_fits (h : nav.types key = some type.hashCode) :
    ¬ nav.Refuses key type := by
  rintro ⟨hash, hhash, hne⟩
  exact hne (Option.some.inj (hhash.symm.trans h))

@[simp] theorem insert_values_self (ptr : Nat) :
    (nav.insert key type ptr).values key = some ptr := Function.update_self ..

@[simp] theorem insert_types_self (ptr : Nat) :
    (nav.insert key type ptr).types key = some type.hashCode := Function.update_self ..

theorem insert_values_of_ne {other : String} (h : other ≠ key) (ptr : Nat) :
    (nav.insert key type ptr).values other = nav.values other := Function.update_of_ne h ..

theorem insert_types_of_ne {other : String} (h : other ≠ key) (ptr : Nat) :
    (nav.insert key type ptr).types other = nav.types other := Function.update_of_ne h ..

theorem insert_sameKeys (hkeys : nav.SameKeys) (key : String) (type : TypeInfo) (ptr : Nat) :
    (nav.insert key type ptr).SameKeys := by
  intro other
  by_cases heq : other = key
  · subst heq
    simp [NavState.insert]
  · simp only [NavState.insert, Function.update_of_ne heq]
    exact hkeys other

theorem addToGroup_eq {vectorOfStrings : TypeInfo} (groupKey key stacktrace : String) :
    nav.addToGroup vectorOfStrings groupKey key stacktrace =
      if key ∈ nav.getGroupKeys groupKey then (nav, .ok ())
      else nav.setGroup vectorOfStrings groupKey (nav.getGroupKeys groupKey ++ [key])
        stacktrace := by
  rw [NavState.addToGroup, index]
  dsimp only
  change (if key ∈ nav.getGroupKeys groupKey then _ else _) = _
  split
  · rename_i hmem
    cases hgroup : nav.groups groupKey with
    | none => simp [getGroupKeys, hgroup] at hmem
    | some members => rw [Option.getD_some, ← hgroup, Function.update_eq_self]
  · rw [NavState.setGroup, Function.update_idem]
    rfl

end Values

/-- What every state of a run keeps: only a key that was set directly has a type other than
that of a group's value. -/
structure Tidy {α : Type u} (vectorOfStrings : TypeInfo) (board : Board α) : Prop where
  sameKeys : board.nav.SameKeys
  allocated : ∀ key ptr, board.nav.values key = some ptr → ptr < board.nav.allocated
  typed : ∀ key, key ∉ board.direct → ∀ hash, board.nav.types key = some hash →
    hash = vectorOfStrings.hashCode

section Boards

variable {α : Type u} {vectorOfStrings : TypeInfo} {board : Board α} {key : String}
  {type : TypeInfo} {value : Object α} {stacktrace : String}

theorem Tidy.get_eq (h : Tidy vectorOfStrings board) (hdirect : key ∉ board.direct) {ptr : Nat}
    (hptr : board.nav.values key = some ptr) :
    board.nav.get key vectorOfStrings = .ok (board.nav.memory ptr) := by
  obtain ⟨htyped, hnamed⟩ := h.sameKeys key
  rw [hptr] at htyped hnamed
  obtain ⟨hash, hhash⟩ := Option.isSome_iff_exists.mp htyped
  obtain ⟨stored, hstored⟩ := Option.isSome_iff_exists.mp hnamed
  rw [NavState.get, hptr, hhash, hstored]
  exact if_neg (not_not.mpr (h.typed key hdirect hash hhash))

/-- The value of a key that was not set directly is read from the object it points to. -/
theorem Tidy.get_iff (h : Tidy vectorOfStrings board) (hdirect : key ∉ board.direct) :
    board.nav.get key vectorOfStrings = .ok value ↔
      ∃ ptr, board.nav.values key = some ptr ∧ board.nav.memory ptr = value := by
  cases hptr : board.nav.values key with
  | none => simp [NavState.get, hptr]
  | some ptr => simp [h.get_eq hdirect hptr]

theorem insert_typed (h : Tidy vectorOfStrings board) {keys : List String}
    (hkey : key ∈ keys ∨ type = vectorOfStrings) (ptr : Nat) :
    ∀ other, other ∉ keys ++ board.direct → ∀ hash,
      (board.nav.insert key type ptr).types other = some hash →
        hash = vectorOfStrings.hashCode := by
  intro other hother hash hhash
  rw [List.mem_append, not_or] at hother
  by_cases heq : other = key
  · subst heq
    obtain rfl := hkey.resolve_left hother.1
    rw [insert_types_self] at hhash
    exact (Option.some.inj hhash).symm
  · rw [insert_types_of_ne heq] at hhash
    exact h.typed other hother.2 hash hhash

theorem insert_allocated (h : Tidy vectorOfStrings board) {ptr bound : Nat} (hptr : ptr < bound)
    (hbound : board.nav.allocated ≤ bound) (type : TypeInfo) :
    ∀ other ptr', (board.nav.insert key type ptr).values other = some ptr' → ptr' < bound := by
  intro other ptr' hptr'
  by_cases heq : other = key
  · subst heq
    rw [insert_values_self] at hptr'
    obtain rfl := Option.some.inj hptr'
    exact hptr
  · rw [insert_values_of_ne heq] at hptr'
    exact Nat.lt_of_lt_of_le (h.allocated other ptr' hptr') hbound

variable {keys : List String}

theorem set_tidy (h : Tidy vectorOfStrings board) (hkey : key ∈ keys ∨ type = vectorOfStrings) :
    Tidy vectorOfStrings (board.after keys (board.nav.set key type value stacktrace)).1 := by
  rcases free_or_fits_or_refuses h.sameKeys key type with hnone | ⟨ptr, hptr, htype⟩ | hrefuses
  · rw [set_of_none hnone]
    refine ⟨insert_sameKeys h.sameKeys key type board.nav.allocated, ?_, ?_⟩
    · exact insert_allocated h (Nat.lt_succ_self _) (Nat.le_succ _) type
    · exact insert_typed h hkey board.nav.allocated
  · rw [set_of_fits hptr htype]
    refine ⟨h.sameKeys, h.allocated, fun other hother => h.typed other fun hmem => hother ?_⟩
    exact List.mem_append_right keys hmem
  · obtain ⟨what, hwhat⟩ := set_of_refuses h.sameKeys hrefuses value stacktrace
    rw [hwhat]
    exact h

theorem setPtr_tidy (h : Tidy vectorOfStrings board) {valuePtr : Nat}
    (hmade : valuePtr < board.nav.allocated) :
    Tidy vectorOfStrings
      (board.after [key] (board.nav.setPtr key type valuePtr stacktrace)).1 := by
  rcases free_or_fits_or_refuses h.sameKeys key type with hnone | ⟨ptr, hptr, htype⟩ | hrefuses
  · rw [NavState.setPtr, hnone]
    refine ⟨insert_sameKeys h.sameKeys key type valuePtr, ?_, ?_⟩
    · exact insert_allocated h hmade (Nat.le_refl _) type
    · exact insert_typed h (.inl List.mem_cons_self) valuePtr
  · rw [NavState.setPtr, hptr]
    dsimp only
    rw [checkType_of_fits htype]
    refine ⟨fun other => ?_, ?_, fun other hother => ?_⟩
    · by_cases heq : other = key
      · subst heq
        have hkeys := h.sameKeys other
        rw [hptr] at hkeys
        simpa [Board.after, Attempt.andThen] using hkeys
      · simpa [Board.after, Attempt.andThen, heq] using h.sameKeys other
    · exact insert_allocated h hmade (Nat.le_refl _) type
    · exact h.typed other fun hmem => hother (List.mem_cons_of_mem _ hmem)
  · obtain ⟨what, hwhat⟩ := setPtr_of_refuses h.sameKeys hrefuses valuePtr stacktrace
    rw [hwhat]
    exact h

/-- The keys of every group but this one are its value. -/
def OthersStored (board : Board α) (key : String) : Prop :=
  ∀ other groupKeys, other ≠ key → board.nav.groups other = some groupKeys →
    other ∉ board.direct →
      ∃ ptr, board.nav.values other = some ptr ∧ board.nav.memory ptr = .strings groupKeys

theorem Tidy.groupsStored_iff (h : Tidy vectorOfStrings board) (key : String) :
    board.GroupsStored vectorOfStrings ↔ OthersStored board key ∧
      ∀ groupKeys, board.nav.groups key = some groupKeys → key ∉ board.direct →
        ∃ ptr, board.nav.values key = some ptr ∧ board.nav.memory ptr = .strings groupKeys := by
  constructor
  · intro hstored
    refine ⟨fun other groupKeys _ hgroup hdirect => ?_, fun groupKeys hgroup hdirect => ?_⟩
    · exact (h.get_iff hdirect).mp (hstored other groupKeys hgroup hdirect)
    · exact (h.get_iff hdirect).mp (hstored key groupKeys hgroup hdirect)
  · rintro ⟨hothers, hkey⟩ other groupKeys hgroup hdirect
    rw [h.get_iff hdirect]
    by_cases heq : other = key
    · subst heq
      exact hkey groupKeys hgroup hdirect
    · exact hothers other groupKeys heq hgroup hdirect

/-- The board after a value was written under a key, and what its groups are then. -/
structure Written (board : Board α) (keys : List String) (key : String) (value : Object α)
    (ptr : Nat) (board' : Board α) : Prop where
  groups : board'.nav.groups = board.nav.groups
  direct : board'.direct = keys ++ board.direct
  only : ∀ other ∈ keys, other = key
  self : board'.nav.values key = some ptr
  others : ∀ other, other ≠ key → board'.nav.values other = board.nav.values other
  memory : board'.nav.memory = Function.update board.nav.memory ptr value

theorem Written.groupsStored_iff {board' : Board α} {ptr : Nat}
    (h : Written board keys key value ptr board') (htidy : Tidy vectorOfStrings board')
    (hothers : OthersStored board key)
    (hvalue : ∀ groupKeys, board.nav.groups key = some groupKeys → key ∉ keys →
      value = .strings groupKeys) :
    board'.GroupsStored vectorOfStrings ↔
      ∀ other groupKeys, other ≠ key → board.nav.values other = some ptr →
        board.nav.groups other = some groupKeys → other ∉ board.direct →
          value = .strings groupKeys := by
  have hself : board'.nav.memory ptr = value := by
    rw [h.memory, Function.update_self]
  have hdirect : ∀ other, other ≠ key → (other ∉ board'.direct ↔ other ∉ board.direct) := by
    intro other hne
    rw [h.direct, List.mem_append, not_or, and_iff_right fun hmem => hne (h.only other hmem)]
  rw [htidy.groupsStored_iff key, and_iff_left]
  · constructor
    · intro hstored other groupKeys hne hptr hgroup hnot
      obtain ⟨ptr', hptr', hkeys⟩ := hstored other groupKeys hne (by rw [h.groups, hgroup])
        ((hdirect other hne).mpr hnot)
      rw [h.others other hne, hptr] at hptr'
      obtain rfl := Option.some.inj hptr'
      exact hself.symm.trans hkeys
    · intro hclear other groupKeys hne hgroup hnot
      rw [h.groups] at hgroup
      rw [hdirect other hne] at hnot
      obtain ⟨ptr', hptr', hkeys⟩ := hothers other groupKeys hne hgroup hnot
      refine ⟨ptr', by rw [h.others other hne, hptr'], ?_⟩
      by_cases heq : ptr' = ptr
      · subst heq
        rw [hself]
        exact hclear other groupKeys hne hptr' hgroup hnot
      · rw [h.memory, Function.update_of_ne heq, hkeys]
  · intro groupKeys hgroup hnot
    rw [h.groups] at hgroup
    rw [h.direct, List.mem_append, not_or] at hnot
    exact ⟨ptr, h.self, hself.trans (hvalue groupKeys hgroup hnot.1)⟩

/-- Storing a value keeps what the groups of other keys store, unless it clobbers one. -/
theorem groupsStored_set_iff (h : Tidy vectorOfStrings board)
    (hkey : key ∈ keys ∨ type = vectorOfStrings) (honly : ∀ other ∈ keys, other = key)
    (hothers : OthersStored board key)
    (hvalue : ∀ groupKeys, board.nav.groups key = some groupKeys → key ∉ keys →
      value = .strings groupKeys)
    (hfits : ¬ board.nav.Refuses key type) :
    (board.after keys
        (board.nav.set key type value stacktrace)).1.GroupsStored vectorOfStrings ↔
      ¬ board.Clobbers key type value := by
  have htidy : Tidy vectorOfStrings
      (board.after keys (board.nav.set key type value stacktrace)).1 := set_tidy h hkey
  rcases free_or_fits_or_refuses h.sameKeys key type with hnone | ⟨ptr, hptr, htype⟩ | hrefuses
  · rw [set_of_none hnone] at htidy ⊢
    have hwritten : Written board keys key value board.nav.allocated
        (board.after keys ({ board.nav with
          memory := Function.update board.nav.memory board.nav.allocated value
          allocated := board.nav.allocated + 1 }.insert key type board.nav.allocated,
            .ok ())).1 :=
      ⟨rfl, rfl, honly, insert_values_self _, fun other hne => insert_values_of_ne hne _, rfl⟩
    rw [hwritten.groupsStored_iff htidy hothers hvalue]
    refine iff_of_true (fun other groupKeys hne hptr => ?_) ?_
    · exact absurd (h.allocated other _ hptr) (Nat.lt_irrefl _)
    · rintro ⟨ptr, -, -, hptr, -⟩
      rw [hnone] at hptr
      cases hptr
  · rw [set_of_fits hptr htype] at htidy ⊢
    have hwritten : Written board keys key value ptr
        (board.after keys ({ board.nav with
          memory := Function.update board.nav.memory ptr value }, .ok ())).1 :=
      ⟨rfl, rfl, honly, hptr, fun _ _ => rfl, rfl⟩
    rw [hwritten.groupsStored_iff htidy hothers hvalue]
    constructor
    · rintro hclear ⟨ptr', other, groupKeys, hptr', -, hne, hother, hgroup, hnot, hvalue⟩
      rw [hptr] at hptr'
      obtain rfl := Option.some.inj hptr'
      exact hvalue (hclear other groupKeys hne hother hgroup hnot)
    · intro hclear other groupKeys hne hother hgroup hnot
      by_contra hvalue
      exact hclear ⟨ptr, other, groupKeys, hptr, htype, hne, hother, hgroup, hnot, hvalue⟩
  · exact absurd hrefuses hfits

/-- What a call should keep: the keys of the maps, what the blackboard answers if the call
throws, and the values of the groups. -/
structure Keeps (vectorOfStrings : TypeInfo) (board : Board α)
    (attempt : Attempt (Board α) String Unit) : Prop where
  sameKeys : attempt.1.nav.SameKeys
  answers : attempt.Throws → SameAnswers attempt.1.nav board.nav
  groupsStored : attempt.1.GroupsStored vectorOfStrings

theorem sameAnswers_refl (nav : NavState α) : SameAnswers nav nav :=
  ⟨fun _ => rfl, fun _ _ => rfl, fun _ => rfl, fun _ => rfl⟩

theorem keeps_of_refused (h : Tidy vectorOfStrings board)
    (hstored : board.GroupsStored vectorOfStrings) (what : String) :
    Keeps vectorOfStrings board (board, .error what) :=
  ⟨h.sameKeys, fun _ => sameAnswers_refl board.nav, hstored⟩

/-- A call that returns keeps what it should just if it keeps the values of the groups. -/
theorem keeps_iff_of_returns {attempt : Attempt (Board α) String Unit}
    (h : Tidy vectorOfStrings attempt.1) (hreturns : ¬ attempt.Throws) :
    Keeps vectorOfStrings board attempt ↔ attempt.1.GroupsStored vectorOfStrings := by
  constructor
  · exact Keeps.groupsStored
  · exact fun hstored => ⟨h.sameKeys, fun hthrows => absurd hthrows hreturns, hstored⟩

theorem set_returns (h : Tidy vectorOfStrings board) (hfits : ¬ board.nav.Refuses key type) :
    ¬ (board.after keys (board.nav.set key type value stacktrace)).Throws := by
  rcases free_or_fits_or_refuses h.sameKeys key type with hnone | ⟨ptr, hptr, htype⟩ | hrefuses
  · rw [set_of_none hnone]
    exact Attempt.not_throws_ok
  · rw [set_of_fits hptr htype]
    exact Attempt.not_throws_ok
  · exact absurd hrefuses hfits

theorem not_clobbers_of_refuses (h : board.nav.Refuses key type) :
    ¬ board.Clobbers key type value := by
  rintro ⟨ptr, other, groupKeys, -, htype, -⟩
  exact not_refuses_of_fits htype h

theorem set_keeps_iff (h : Tidy vectorOfStrings board)
    (hstored : board.GroupsStored vectorOfStrings) :
    Keeps vectorOfStrings board
        (board.after [key] (board.nav.set key type value stacktrace)) ↔
      ¬ board.Clobbers key type value := by
  by_cases hrefuses : board.nav.Refuses key type
  · obtain ⟨what, hwhat⟩ := set_of_refuses h.sameKeys hrefuses value stacktrace
    rw [hwhat]
    exact iff_of_true (keeps_of_refused h hstored what) (not_clobbers_of_refuses hrefuses)
  · have hself : key ∈ [key] := List.mem_singleton_self key
    rw [keeps_iff_of_returns (set_tidy h (.inl hself)) (set_returns h hrefuses)]
    refine groupsStored_set_iff h (.inl hself) (fun _ => List.mem_singleton.mp)
      ((h.groupsStored_iff key).mp hstored).1 (fun groupKeys _ hnot => ?_) hrefuses
    exact absurd hself hnot

theorem groupsStored_of_replaced {board' : Board α} (hstored : board.GroupsStored vectorOfStrings)
    (h : Tidy vectorOfStrings board) (h' : Tidy vectorOfStrings board')
    (hgroups : board'.nav.groups = board.nav.groups) (hdirect : board'.direct = key :: board.direct)
    (hmemory : board'.nav.memory = board.nav.memory)
    (hothers : ∀ other, other ≠ key → board'.nav.values other = board.nav.values other) :
    board'.GroupsStored vectorOfStrings := by
  rw [h'.groupsStored_iff key]
  refine ⟨fun other groupKeys hne hgroup hnot => ?_, fun groupKeys _ hnot => ?_⟩
  · rw [hgroups] at hgroup
    rw [hdirect, List.mem_cons, not_or] at hnot
    rw [hothers other hne, hmemory]
    exact ((h.groupsStored_iff key).mp hstored).1 other groupKeys hne hgroup hnot.2
  · rw [hdirect] at hnot
    exact absurd List.mem_cons_self hnot

theorem setPtr_keeps (h : Tidy vectorOfStrings board)
    (hstored : board.GroupsStored vectorOfStrings) {valuePtr : Nat}
    (hmade : valuePtr < board.nav.allocated) :
    Keeps vectorOfStrings board
      (board.after [key] (board.nav.setPtr key type valuePtr stacktrace)) := by
  have htidy : Tidy vectorOfStrings
      (board.after [key] (board.nav.setPtr key type valuePtr stacktrace)).1 := setPtr_tidy h hmade
  rcases free_or_fits_or_refuses h.sameKeys key type with hnone | ⟨ptr, hptr, htype⟩ | hrefuses
  · rw [NavState.setPtr, hnone] at htidy ⊢
    rw [keeps_iff_of_returns htidy Attempt.not_throws_ok]
    exact groupsStored_of_replaced hstored h htidy rfl rfl rfl
      fun other hne => insert_values_of_ne hne valuePtr
  · rw [NavState.setPtr, hptr] at htidy ⊢
    dsimp only at htidy ⊢
    rw [checkType_of_fits htype] at htidy ⊢
    rw [keeps_iff_of_returns htidy Attempt.not_throws_ok]
    exact groupsStored_of_replaced hstored h htidy rfl rfl rfl
      fun other hne => Function.update_of_ne hne ..
  · obtain ⟨what, hwhat⟩ := setPtr_of_refuses h.sameKeys hrefuses valuePtr stacktrace
    rw [hwhat]
    exact keeps_of_refused h hstored what

def recordGroup (board : Board α) (key : String) (groupKeys : List String) : Board α :=
  { board with
    nav := { board.nav with groups := Function.update board.nav.groups key (some groupKeys) } }

theorem recordGroup_tidy (h : Tidy vectorOfStrings board) (key : String)
    (groupKeys : List String) :
    Tidy vectorOfStrings (recordGroup board key groupKeys) :=
  ⟨h.sameKeys, h.allocated, h.typed⟩

theorem recordGroup_clobbers_iff (groupKeys : List String) :
    (recordGroup board key groupKeys).Clobbers key type value ↔
      board.Clobbers key type value := by
  have hgroups : ∀ other, other ≠ key →
      (recordGroup board key groupKeys).nav.groups other = board.nav.groups other :=
    fun other hne => Function.update_of_ne hne ..
  constructor
  · rintro ⟨ptr, other, keys, hptr, htype, hne, hother, hgroup, hnot, hvalue⟩
    rw [hgroups other hne] at hgroup
    exact ⟨ptr, other, keys, hptr, htype, hne, hother, hgroup, hnot, hvalue⟩
  · rintro ⟨ptr, other, keys, hptr, htype, hne, hother, hgroup, hnot, hvalue⟩
    rw [← hgroups other hne] at hgroup
    exact ⟨ptr, other, keys, hptr, htype, hne, hother, hgroup, hnot, hvalue⟩

theorem after_setGroup (groupKeys : List String) :
    board.after [] (board.nav.setGroup vectorOfStrings key groupKeys stacktrace) =
      (recordGroup board key groupKeys).after []
        ((recordGroup board key groupKeys).nav.set key vectorOfStrings (.strings groupKeys)
          stacktrace) := rfl

theorem recordGroup_groups_self (groupKeys : List String) :
    (recordGroup board key groupKeys).nav.groups key = some groupKeys := Function.update_self ..

theorem recordGroup_othersStored (h : OthersStored board key) (groupKeys : List String) :
    OthersStored (recordGroup board key groupKeys) key := by
  intro other keys hne hgroup hnot
  have hsame : (recordGroup board key groupKeys).nav.groups other = board.nav.groups other :=
    Function.update_of_ne hne ..
  rw [hsame] at hgroup
  exact h other keys hne hgroup hnot

/-- Recording a group shows in the answers, unless it has been recorded with these keys. -/
theorem groups_of_sameAnswers {groupKeys : List String}
    (hsame : SameAnswers (recordGroup board key groupKeys).nav board.nav) :
    board.nav.groups key = some groupKeys := by
  have hkeys := hsame.getGroupKeys key
  have hgroup := hsame.hasGroup key
  rw [getGroupKeys, getGroupKeys, recordGroup_groups_self, Option.getD_some] at hkeys
  rw [hasGroup, hasGroup, recordGroup_groups_self] at hgroup
  obtain ⟨members, hmembers⟩ := Option.isSome_iff_exists.mp hgroup.symm
  rw [hmembers, Option.getD_some] at hkeys
  rw [hmembers, hkeys]

/-- A group that is refused is recorded all the same. -/
theorem keeps_of_recorded_iff (h : Tidy vectorOfStrings board)
    (hstored : board.GroupsStored vectorOfStrings) (groupKeys : List String) (what : String) :
    Keeps vectorOfStrings board (recordGroup board key groupKeys, .error what) ↔
      board.nav.groups key = some groupKeys := by
  constructor
  · intro hkeeps
    exact groups_of_sameAnswers (hkeeps.answers Attempt.throws_error)
  · intro hgroup
    have hunchanged : recordGroup board key groupKeys = board := by
      rw [recordGroup, ← hgroup, Function.update_eq_self]
    rw [hunchanged]
    exact keeps_of_refused h hstored what

theorem setGroup_keeps_iff (h : Tidy vectorOfStrings board)
    (hstored : board.GroupsStored vectorOfStrings) (groupKeys : List String) :
    Keeps vectorOfStrings board
        (board.after [] (board.nav.setGroup vectorOfStrings key groupKeys stacktrace)) ↔
      (board.nav.Refuses key vectorOfStrings → board.nav.groups key = some groupKeys) ∧
        ¬ board.Clobbers key vectorOfStrings (.strings groupKeys) := by
  have hrecorded := recordGroup_tidy h key groupKeys
  rw [after_setGroup]
  by_cases hrefuses : board.nav.Refuses key vectorOfStrings
  · have hrefuses' : (recordGroup board key groupKeys).nav.Refuses key vectorOfStrings := hrefuses
    obtain ⟨what, hwhat⟩ :=
      set_of_refuses hrecorded.sameKeys hrefuses' (.strings groupKeys) stacktrace
    rw [hwhat, and_iff_left (not_clobbers_of_refuses hrefuses), imp_iff_right hrefuses]
    exact keeps_of_recorded_iff h hstored groupKeys what
  · have hrefuses' : ¬ (recordGroup board key groupKeys).nav.Refuses key vectorOfStrings := hrefuses
    have hothers := ((h.groupsStored_iff key).mp hstored).1
    rw [keeps_iff_of_returns (set_tidy hrecorded (.inr rfl)) (set_returns hrecorded hrefuses'),
      and_iff_right fun h => absurd h hrefuses, ← recordGroup_clobbers_iff groupKeys]
    refine groupsStored_set_iff hrecorded (.inr rfl) (fun _ hmem => absurd hmem List.not_mem_nil)
      (recordGroup_othersStored hothers groupKeys) (fun keys hgroup _ => ?_) hrefuses'
    rw [recordGroup_groups_self] at hgroup
    rw [Option.some.inj hgroup]

theorem addToGroup_keeps_iff (h : Tidy vectorOfStrings board)
    (hstored : board.GroupsStored vectorOfStrings) (groupKey key : String) :
    Keeps vectorOfStrings board
        (board.after [] (board.nav.addToGroup vectorOfStrings groupKey key stacktrace)) ↔
      board.Careful vectorOfStrings (.addToGroup groupKey key stacktrace) := by
  rw [addToGroup_eq, Board.Careful]
  split
  · rename_i hmem
    have hsame : board.after [] (board.nav, .ok ()) = (board, .ok ()) := rfl
    rw [hsame, keeps_iff_of_returns h Attempt.not_throws_ok]
    exact iff_of_true hstored fun hnot => absurd hmem hnot
  · rename_i hnot
    rw [setGroup_keeps_iff h hstored, imp_iff_right hnot]
    refine and_congr_left' ⟨fun hsame hrefuses => ?_, fun hfits hrefuses => absurd hrefuses hfits⟩
    -- a group that has one member more
    have hlonger := congrArg (Option.getD · []) (hsame hrefuses)
    change board.nav.getGroupKeys groupKey = board.nav.getGroupKeys groupKey ++ [key] at hlonger
    simp at hlonger

theorem attempt_keeps_iff (h : Tidy vectorOfStrings board)
    (hstored : board.GroupsStored vectorOfStrings) (call : Call α) :
    Keeps vectorOfStrings board (board.attempt vectorOfStrings call) ↔
      board.Careful vectorOfStrings call := by
  cases call with
  | set key type value stacktrace => exact set_keeps_iff h hstored
  | setPtr key type valuePtr stacktrace =>
      rw [Board.attempt]
      refine iff_of_true ?_ trivial
      split
      · rename_i hmade
        exact setPtr_keeps h hstored hmade
      · exact (keeps_iff_of_returns h Attempt.not_throws_ok).mpr hstored
  | setGroup key groupKeys stacktrace => exact setGroup_keeps_iff h hstored groupKeys
  | addToGroup groupKey key stacktrace => exact addToGroup_keeps_iff h hstored groupKey key

theorem setGroup_tidy (h : Tidy vectorOfStrings board) (groupKeys : List String) :
    Tidy vectorOfStrings
      (board.after [] (board.nav.setGroup vectorOfStrings key groupKeys stacktrace)).1 := by
  rw [after_setGroup]
  exact set_tidy (recordGroup_tidy h key groupKeys) (.inr rfl)

theorem step_tidy (h : Tidy vectorOfStrings board) (call : Call α) :
    Tidy vectorOfStrings (board.step vectorOfStrings call) := by
  cases call with
  | set key type value stacktrace => exact set_tidy h (.inl (List.mem_singleton_self key))
  | setPtr key type valuePtr stacktrace =>
      rw [Board.step, Board.attempt]
      split
      · rename_i hmade
        exact setPtr_tidy h hmade
      · exact h
  | setGroup key groupKeys stacktrace => exact setGroup_tidy h groupKeys
  | addToGroup groupKey key stacktrace =>
      rw [Board.step, Board.attempt, addToGroup_eq]
      split
      · exact h
      · exact setGroup_tidy h _

end Boards

section Runs

variable {α : Type u} {vectorOfStrings : TypeInfo} {board : Board α}
  {past : List (Board α × Call α)}

theorem run_tidy (hrun : Run (Board.step vectorOfStrings) Board.IsNew board past) :
    Tidy vectorOfStrings board := by
  refine hrun.invariant_of_all ?_ ?_
  · rintro _ ⟨memory, allocated, rfl⟩
    exact ⟨fun _ => ⟨rfl, rfl⟩, nofun, nofun⟩
  · intro _ call h
    exact step_tidy h call

/-- What the calls of a run keep: in every state, the keys of the maps and the values of the
groups, and what the blackboard answers when a call throws. -/
structure Consistent (vectorOfStrings : TypeInfo) (board : Board α)
    (past : List (Board α × Call α)) : Prop where
  sameKeys : ∀ s ∈ reached board past, s.nav.SameKeys
  answers : ∀ p ∈ past, (p.1.attempt vectorOfStrings p.2).Throws →
    SameAnswers (p.1.step vectorOfStrings p.2).nav p.1.nav
  groupsStored : ∀ s ∈ reached board past, s.GroupsStored vectorOfStrings

theorem consistent_next_iff (call : Call α) :
    Consistent vectorOfStrings (board.step vectorOfStrings call) ((board, call) :: past) ↔
      Keeps vectorOfStrings board (board.attempt vectorOfStrings call) ∧
        Consistent vectorOfStrings board past := by
  constructor
  · rintro ⟨hkeys, hanswers, hstored⟩
    rw [reached, List.map_cons, List.forall_mem_cons] at hkeys hstored
    rw [List.forall_mem_cons] at hanswers
    exact ⟨⟨hkeys.1, hanswers.1, hstored.1⟩, ⟨hkeys.2, hanswers.2, hstored.2⟩⟩
  · rintro ⟨⟨hkeys, hanswers, hstored⟩, ⟨hkeys', hanswers', hstored'⟩⟩
    exact ⟨List.forall_mem_cons.mpr ⟨hkeys, hkeys'⟩, List.forall_mem_cons.mpr ⟨hanswers, hanswers'⟩,
      List.forall_mem_cons.mpr ⟨hstored, hstored'⟩⟩

/-- The blackboard stays consistent exactly as long as all calls are careful. -/
theorem consistent_iff (hrun : Run (Board.step vectorOfStrings) Board.IsNew board past) :
    Consistent vectorOfStrings board past ↔
      ∀ p ∈ past, p.1.Careful vectorOfStrings p.2 := by
  induction hrun with
  | init h =>
      obtain ⟨memory, allocated, rfl⟩ := h
      refine iff_of_true ⟨?_, nofun, ?_⟩ nofun
      · intro board hboard
        rw [List.mem_singleton.mp hboard]
        exact fun _ => ⟨rfl, rfl⟩
      · intro board hboard
        rw [List.mem_singleton.mp hboard]
        exact nofun
  | @next board past hrun call ih =>
      rw [consistent_next_iff, List.forall_mem_cons, ← ih]
      refine and_congr_left fun hpast => ?_
      exact attempt_keeps_iff (run_tidy hrun) (hpast.groupsStored board List.mem_cons_self) call

end Runs

def exampleVectorOfStrings : TypeInfo := ⟨1, "std::vector<std::string>"⟩

def exampleBoard : Board Nat := { nav := { memory := fun _ => .other 0, allocated := 0 } }

def historyOf (calls : List (Call Nat)) : List (Board Nat × Call Nat) :=
  history (Board.step exampleVectorOfStrings) exampleBoard calls []

theorem exampleBoard_run (calls : List (Call Nat)) :
    Run (Board.step exampleVectorOfStrings) Board.IsNew
      (calls.foldl (Board.step exampleVectorOfStrings) exampleBoard) (historyOf calls) :=
  (Run.init ⟨_, 0, rfl⟩).foldl calls

theorem consistent_iff_grouped :
    let calls : List (Call Nat) := [.set "front" ⟨2, "PointPerception"⟩ (.other 7) "",
      .addToGroup "points" "front" "", .addToGroup "points" "rear" ""]
    Consistent exampleVectorOfStrings
        (calls.foldl (Board.step exampleVectorOfStrings) exampleBoard) (historyOf calls) ↔
      ∀ p ∈ historyOf calls, p.1.Careful exampleVectorOfStrings p.2 :=
  consistent_iff (exampleBoard_run _)

def setPoints : Call Nat := .set "points" ⟨2, "PointPerception"⟩ (.other 7) ""

def addToPoints : Call Nat := .addToGroup "points" "points" ""

/-- Adding it throws, and then there is a group that was not there before. -/
theorem group_recorded_although_thrown :
    let before := exampleBoard.step exampleVectorOfStrings setPoints
    let board := before.step exampleVectorOfStrings addToPoints
    (before.attempt exampleVectorOfStrings addToPoints).Throws ∧
      before.nav.hasGroup "points" = false ∧ board.nav.hasGroup "points" = true ∧
      Run (Board.step exampleVectorOfStrings) Board.IsNew board
        (historyOf [setPoints, addToPoints]) ∧
      ¬ Consistent exampleVectorOfStrings board (historyOf [setPoints, addToPoints]) := by
  have hthrows : ((exampleBoard.step exampleVectorOfStrings setPoints).attempt
      exampleVectorOfStrings addToPoints).Throws := ⟨_, rfl⟩
  refine ⟨hthrows, by decide +kernel, by decide +kernel,
    exampleBoard_run [setPoints, addToPoints], fun h => ?_⟩
  have hsame := (h.answers _ List.mem_cons_self hthrows).hasGroup "points"
  exact absurd hsame (by decide +kernel)

end EasyNav.Blackboard
