/-
Decisions and the grants behind them. An access list is made by changes, one
after another; what it decides about a caller depends on the grants to that
caller that no revocation has followed, and on nothing else of its history.

# Standing grants

`Stands p g changes` says that `g` was given to `p` at some point of the
changes and that `p` was not revoked after it. It is a statement about the
history alone. The list that the changes lead to holds for every principal
exactly the grants that stand (`mem_held`), and a caller is allowed what one
of them covers by itself: its pattern names the object and it lists the
action.

How a history is put together from stretches is said once
(`stands_append`). That changes of others do not matter, nor the order of
grants between two revocations, nor a grant made twice, is one fact about a
stretch in which nobody revokes `p` (`stands_stretch`).
-/
import Mathlib.Data.List.Induction
import Fleetkeeper.Access

namespace Fleetkeeper

-- ================================================================ patterns

/-- What a pattern names: everything, all objects of a kind, or the object
that has it for its text. A text that ends as the patterns of kinds do never
names a single object. -/
def Names (pattern : String) (o : ObjectId) : Prop :=
  pattern = "*" ∨ pattern = o.kind.toText ++ ":*"
    ∨ pattern = o.toText ∧ ¬ [':', '*'] <:+ pattern.toList

/-- A pattern of a kind is the kind with `:*` behind it. -/
theorem kindPattern?_eq_some {pattern kind : String} :
    kindPattern? pattern = some kind ↔ pattern = kind ++ ":*" := by
  unfold kindPattern?
  constructor
  · intro h
    split at h
    · rename_i rest hrest
      have htext : pattern.toList = rest.reverse ++ [':', '*'] := by
        rw [← List.reverse_reverse pattern.toList, hrest]
        simp
      rw [← Option.some.inj h, ← String.toList_inj, htext]
      simp
    · cases h
  · intro h
    have hrev :
        pattern.toList.reverse = '*' :: ':' :: kind.toList.reverse := by
      rw [h]
      simp
    rw [hrev]
    simp

/-- A pattern is of no kind just where it does not end in the mark of one. -/
theorem kindPattern?_eq_none {pattern : String} :
    kindPattern? pattern = none ↔ ¬ [':', '*'] <:+ pattern.toList := by
  rw [Option.eq_none_iff_forall_ne_some]
  constructor
  · rintro h ⟨rest, hrest⟩
    refine h (String.ofList rest) (kindPattern?_eq_some.2 ?_)
    rw [← String.toList_inj, ← hrest]
    simp
  · intro h kind hkind
    refine h ⟨kind.toList, ?_⟩
    rw [kindPattern?_eq_some.1 hkind]
    simp

/-- The check that is run agrees with what patterns stand for. -/
theorem patternMatches_iff (pattern : String) (o : ObjectId) :
    patternMatches pattern o = true ↔ Names pattern o := by
  unfold patternMatches Names
  by_cases hall : pattern = "*"
  · simp [hall]
  · rw [if_neg hall]
    cases hkind : kindPattern? pattern with
    | some kind =>
      have hpattern := kindPattern?_eq_some.1 hkind
      have hends : [':', '*'] <:+ pattern.toList :=
        ⟨kind.toList, by simp [hpattern]⟩
      have hkinds : pattern = o.kind.toText ++ ":*"
          ↔ kind = o.kind.toText := by
        rw [hpattern, String.append_left_inj]
      simp [hall, hends, hkinds]
    | none =>
      have hends := kindPattern?_eq_none.1 hkind
      have hother : pattern ≠ o.kind.toText ++ ":*" := by
        intro h
        rw [kindPattern?_eq_some.2 h] at hkind
        cases hkind
      simp [hall, hends, hother]

namespace AccessControl

-- ================================================================= history

/-- A change to an access list. -/
inductive Change where
  | grant (principal : String) (g : Grant)
  | revokeAll (principal : String)
deriving DecidableEq, Repr

namespace Change

/-- Whose grants it changes. -/
def principal : Change → String
  | grant p _ => p
  | revokeAll p => p

def apply (ac : AccessControl) : Change → AccessControl
  | grant p g => ac.grant p g
  | revokeAll p => ac.revokeAll p

end Change

/-- The access list that changes make of the one without grants. -/
def after (changes : List Change) : AccessControl :=
  changes.foldl Change.apply closed

/-- A grant to a principal who was not revoked after it. -/
def Stands (p : String) (g : Grant) (changes : List Change) : Prop :=
  ∃ earlier later, changes = earlier ++ .grant p g :: later
    ∧ .revokeAll p ∉ later

variable {p : String} {g : Grant} {xs ys : List Change}

@[simp] theorem not_stands_nil : ¬ Stands p g [] := by
  rintro ⟨earlier, later, h, -⟩
  simp at h

/-- What stands after two stretches was given in the second, or in the first
and not revoked in the second. -/
theorem stands_append :
    Stands p g (xs ++ ys)
      ↔ Stands p g ys ∨ Stands p g xs ∧ .revokeAll p ∉ ys := by
  constructor
  · rintro ⟨earlier, later, h, hlater⟩
    rcases List.append_eq_append_iff.1 h with ⟨mid, -, hys⟩ | ⟨mid, hxs, hmid⟩
    · exact .inl ⟨mid, later, hys, hlater⟩
    · cases mid with
      | nil => exact .inl ⟨[], later, hmid.symm, hlater⟩
      | cons c mid =>
        obtain ⟨rfl, rfl⟩ := List.cons.inj hmid
        rw [List.append_eq, List.mem_append, not_or] at hlater
        exact .inr ⟨⟨earlier, mid, hxs, hlater.1⟩, hlater.2⟩
  · rintro (⟨earlier, later, rfl, hlater⟩
      | ⟨⟨earlier, later, rfl, hlater⟩, hys⟩)
    · exact ⟨xs ++ earlier, later, by simp, hlater⟩
    · refine ⟨earlier, later ++ ys, by simp, ?_⟩
      rw [List.mem_append, not_or]
      exact ⟨hlater, hys⟩

/-- Where a principal is not revoked, all that is given to it stands. -/
theorem stands_stretch (h : .revokeAll p ∉ xs) :
    Stands p g xs ↔ .grant p g ∈ xs := by
  constructor
  · rintro ⟨earlier, later, rfl, -⟩
    simp
  · intro hmem
    obtain ⟨earlier, later, rfl⟩ := List.append_of_mem hmem
    exact ⟨earlier, later, rfl, fun hlater => h (by simp [hlater])⟩

-- ==================================================== what a list has come to

/-- The grants of a principal. -/
def held (ac : AccessControl) (p : String) : List Grant :=
  match ac with
  | .allowAll => []
  | .listed grants => (grants.find? p).getD []

/-- A user is allowed what one of the grants held covers. -/
theorem allows_eq_held {ac : AccessControl} (hac : ac ≠ .allowAll) (p : String)
    (o : ObjectId) (a : Action) :
    ac.allows (.user p) o a = (ac.held p).any (·.covers o a) := by
  cases ac with
  | allowAll => exact absurd rfl hac
  | listed grants => rfl

/-- A grant is held by the one that it is made to, and nobody else holds more.
-/
theorem held_grant (ac : AccessControl) (hac : ac ≠ .allowAll) (p q : String)
    (g : Grant) :
    (ac.grant q g).held p = if p = q then ac.held p ++ [g] else ac.held p := by
  cases ac with
  | allowAll => exact absurd rfl hac
  | listed grants =>
    unfold grant held
    dsimp only
    rw [Table.find?_insert]
    by_cases hpq : p = q <;> simp [hpq]

theorem held_revokeAll (ac : AccessControl) (p q : String) :
    (ac.revokeAll q).held p = if p = q then [] else ac.held p := by
  cases ac with
  | allowAll => simp [revokeAll, held]
  | listed grants =>
    unfold revokeAll held
    dsimp only
    rw [Table.find?_erase]
    by_cases hpq : p = q <;> simp [hpq]

theorem after_concat (changes : List Change) (c : Change) :
    after (changes ++ [c]) = c.apply (after changes) := by
  simp [after, List.foldl_append]

/-- Changes never make a list that allows everything. -/
theorem after_ne_allowAll (changes : List Change) :
    after changes ≠ .allowAll := by
  induction changes using List.reverseRecOn with
  | nil => simp [after, closed]
  | append_singleton changes c ih =>
    rw [after_concat]
    cases hac : after changes with
    | allowAll => exact absurd hac ih
    | listed grants => cases c <;> simp [Change.apply, grant, revokeAll]

/-- A list holds for every principal the grants that stand. -/
theorem mem_held (changes : List Change) :
    g ∈ (after changes).held p ↔ Stands p g changes := by
  induction changes using List.reverseRecOn with
  | nil => simp [after, closed, held, EmptyCollection.emptyCollection]
  | append_singleton changes c ih =>
    rw [after_concat, stands_append]
    cases c with
    | grant q g' =>
      have hlast : Stands p g [.grant q g'] ↔ p = q ∧ g = g' := by
        rw [stands_stretch (by simp)]
        simp
      rw [hlast, Change.apply, held_grant _ (after_ne_allowAll changes)]
      by_cases hpq : p = q
      · rw [if_pos hpq, List.mem_append, ih]
        simp [hpq, or_comm]
      · rw [if_neg hpq, ih]
        simp [hpq]
    | revokeAll q =>
      have hlast : ¬ Stands p g [.revokeAll q] := by
        rintro ⟨earlier, later, h, -⟩
        simpa using congrArg (Change.grant p g ∈ ·) h
      rw [Change.apply, held_revokeAll]
      by_cases hpq : p = q
      · rw [if_pos hpq, or_iff_right hlast]
        simp [hpq]
      · rw [if_neg hpq, ih, or_iff_right hlast]
        simp [hpq]

/-- A user is allowed what one of the grants that stand covers. -/
theorem allows_user (changes : List Change) (p : String) (o : ObjectId)
    (a : Action) :
    (after changes).allows (.user p) o a = true
      ↔ ∃ g, Stands p g changes ∧ Names g.pattern o ∧ a ∈ g.actions := by
  rw [allows_eq_held (after_ne_allowAll changes), List.any_eq_true]
  refine exists_congr fun g => and_congr (mem_held changes) ?_
  unfold Grant.covers
  rw [Bool.and_eq_true, patternMatches_iff, List.contains_iff_mem]

-- ================================================================ decisions

/-- Histories in which the same grants stand lead to the same decisions. -/
theorem allows_congr (h : ∀ g, Stands p g xs ↔ Stands p g ys) (o : ObjectId)
    (a : Action) :
    (after xs).allows (.user p) o a = (after ys).allows (.user p) o a := by
  rw [Bool.eq_iff_iff, allows_user, allows_user]
  simp only [h]

/-- Two stretches without a revocation of a principal that give it the same
grants can stand for each other, whatever else is in them. -/
theorem allows_of_sameGrants (earlier later : List Change)
    (hxs : .revokeAll p ∉ xs) (hys : .revokeAll p ∉ ys)
    (h : ∀ g, .grant p g ∈ xs ↔ .grant p g ∈ ys) (o : ObjectId) (a : Action) :
    (after (earlier ++ xs ++ later)).allows (.user p) o a
      = (after (earlier ++ ys ++ later)).allows (.user p) o a := by
  refine allows_congr (fun g => ?_) o a
  rw [stands_append, stands_append, stands_append, stands_append,
    stands_stretch hxs, stands_stretch hys, h g]
  simp only [hxs, hys]

/-- What a caller is allowed goes by the grants to it. A user may do
something just where a grant that was given to the user, with no revocation of
the user behind it, names the object and lists the action; the name of the
system makes no difference there. So a change that concerns somebody else can
be left out, wherever it stands; grants between two revocations of the user
can be put in any order and made any number of times; and one more grant takes
nothing away. The system itself is always allowed. A check passes where the
caller is allowed and fails as denied, for that object and action, where it is
not. -/
theorem decided_by_grants :
    (∀ changes p o a, (after changes).allows (.user p) o a = true
        ↔ ∃ g, Stands p g changes ∧ Names g.pattern o ∧ a ∈ g.actions)
      ∧ (∀ earlier c later p o a, c.principal ≠ p →
          (after (earlier ++ c :: later)).allows (.user p) o a
            = (after (earlier ++ later)).allows (.user p) o a)
      ∧ (∀ earlier xs ys later p o a, .revokeAll p ∉ xs → .revokeAll p ∉ ys →
          (∀ g, .grant p g ∈ xs ↔ .grant p g ∈ ys) →
          (after (earlier ++ xs ++ later)).allows (.user p) o a
            = (after (earlier ++ ys ++ later)).allows (.user p) o a)
      ∧ (∀ earlier later p g o a,
        (after (earlier ++ later)).allows (.user p) o a = true →
          (after (earlier ++ .grant p g :: later)).allows (.user p) o a = true)
      ∧ (∀ changes o a, (after changes).allows .system o a = true)
      ∧ ∀ changes caller o a, (after changes).check caller o a
          = if (after changes).allows caller o a = true then .ok ()
            else .error (.accessDenied o.toText a.toText) := by
  refine ⟨allows_user, ?_, ?_, ?_, ?_, ?_⟩
  · intro earlier c later p o a hother
    have hrevoke : Change.revokeAll p ∉ [c] := by
      rw [List.mem_singleton]
      rintro rfl
      exact hother rfl
    have hgrant : ∀ g, Change.grant p g ∈ [c] ↔ Change.grant p g ∈ [] := by
      intro g
      rw [List.mem_singleton]
      refine ⟨?_, fun h => absurd h List.not_mem_nil⟩
      rintro rfl
      exact absurd rfl hother
    have h :=
      allows_of_sameGrants earlier later hrevoke List.not_mem_nil hgrant o a
    simpa using h
  · intro earlier xs ys later p o a hxs hys h
    exact allows_of_sameGrants earlier later hxs hys h o a
  · intro earlier later p g o a hallowed
    rw [allows_user] at hallowed ⊢
    obtain ⟨g', hstands, hcovers⟩ := hallowed
    refine ⟨g', ?_, hcovers⟩
    rw [List.append_cons, stands_append, stands_append]
    rw [stands_append] at hstands
    rcases hstands with hlater | ⟨hearlier, hlater⟩
    · exact .inl hlater
    · exact .inr ⟨.inr ⟨hearlier, by simp⟩, hlater⟩
  · intro changes o a
    cases hac : after changes with
    | allowAll => rfl
    | listed grants => rfl
  · intro changes caller o a
    rfl

end AccessControl

end Fleetkeeper
