import Mathlib.Data.List.Infix

/-!
# Longest-prefix lookup

A table gives values to prefixes, and an address takes the value of the longest
prefix of it that has one.  The lookup walks down the address as a trie would.  The
lemmas say which prefix it selects, and compare a table with routes that are spread
over an index: a table that has a value for the prefix of each route, and for no
other prefix, selects the value of the route that the longest prefix selects.
-/

namespace XpliantSwitchd
namespace LongestPrefix

variable {β α γ ι : Type*}

/-- The value of the longest prefix of an address that has one. -/
def lookup (table : List β → Option α) : List β → Option α
  | [] => table []
  | symbol :: address => (lookup (fun tail => table (symbol :: tail)) address).or (table [])

/-- A prefix of an address has a value, and no longer prefix of the address has
one. -/
structure Longest (table : List β → Option α) (address found : List β) (value : α) :
    Prop where
  isPrefix : found <+: address
  known : table found = some value
  longest : ∀ other, other <+: address → (table other).isSome →
    other.length ≤ found.length

theorem lookup_eq_none_iff {table : List β → Option α} {address : List β} :
    lookup table address = none ↔ ∀ found, found <+: address → table found = none := by
  induction address generalizing table with
  | nil => simp [lookup]
  | cons symbol address inductionHypothesis =>
      rw [lookup, Option.or_eq_none_iff, inductionHypothesis]
      constructor
      · rintro ⟨below, here⟩ found isPrefix
        cases found with
        | nil => exact here
        | cons head tail =>
            obtain ⟨rfl, tailPrefix⟩ := List.cons_prefix_cons.mp isPrefix
            exact below tail tailPrefix
      · intro absent
        refine ⟨?_, absent [] List.nil_prefix⟩
        intro tail tailPrefix
        exact absent _ (List.cons_prefix_cons.mpr ⟨rfl, tailPrefix⟩)

/-- The lookup finds the value of the longest prefix. -/
theorem lookup_eq_some_iff {table : List β → Option α} {address : List β} {value : α} :
    lookup table address = some value ↔ ∃ found, Longest table address found value := by
  induction address generalizing table with
  | nil =>
      constructor
      · intro known
        refine ⟨[], List.prefix_rfl, known, ?_⟩
        intro other isPrefix _
        rw [List.prefix_nil.mp isPrefix]
      · rintro ⟨found, longest⟩
        rw [lookup, ← List.prefix_nil.mp longest.isPrefix]
        exact longest.known
  | cons symbol address inductionHypothesis =>
      rw [lookup, Option.or_eq_some_iff, inductionHypothesis, lookup_eq_none_iff]
      constructor
      · rintro (⟨tail, longest⟩ | ⟨noneBelow, known⟩)
        · refine ⟨symbol :: tail,
            List.cons_prefix_cons.mpr ⟨rfl, longest.isPrefix⟩, longest.known, ?_⟩
          intro other isPrefix isKnown
          cases other with
          | nil => exact Nat.zero_le _
          | cons head otherTail =>
              obtain ⟨rfl, otherPrefix⟩ := List.cons_prefix_cons.mp isPrefix
              exact Nat.succ_le_succ (longest.longest otherTail otherPrefix isKnown)
        · refine ⟨[], List.nil_prefix, known, ?_⟩
          intro other isPrefix isKnown
          cases other with
          | nil => exact Nat.le_refl _
          | cons head otherTail =>
              obtain ⟨rfl, otherPrefix⟩ := List.cons_prefix_cons.mp isPrefix
              rw [noneBelow otherTail otherPrefix] at isKnown
              cases isKnown
      · rintro ⟨found, longest⟩
        cases found with
        | nil =>
            refine .inr ⟨?_, longest.known⟩
            intro tail tailPrefix
            by_contra known
            have short := longest.longest (symbol :: tail)
              (List.cons_prefix_cons.mpr ⟨rfl, tailPrefix⟩)
              (Option.isSome_iff_ne_none.mpr known)
            cases short
        | cons head tail =>
            obtain ⟨rfl, tailPrefix⟩ := List.cons_prefix_cons.mp longest.isPrefix
            refine .inl ⟨tail, tailPrefix, longest.known, ?_⟩
            intro other otherPrefix isKnown
            exact Nat.le_of_succ_le_succ (longest.longest (head :: other)
              (List.cons_prefix_cons.mpr ⟨rfl, otherPrefix⟩) isKnown)

/-- A route is selected for an address: its prefix is a prefix of the address, and
no route has a longer one. -/
structure Selects (routes : ι → Option (List β × α)) (address : List β) (index : ι)
    (value : α) : Prop where
  selected : ∃ found, routes index = some (found, value) ∧ found <+: address ∧
    ∀ other otherFound otherValue, routes other = some (otherFound, otherValue) →
      otherFound <+: address → otherFound.length ≤ found.length

/-- A table has the prefixes of the routes, with values that stand for theirs. -/
structure Presents (routes : ι → Option (List β × α)) (related : α → γ → Prop)
    (table : List β → Option γ) : Prop where
  sound : ∀ found value, table found = some value →
    ∃ index original, routes index = some (found, original)
  complete : ∀ index found original, routes index = some (found, original) →
    ∃ value, table found = some value ∧ related original value

variable {routes : ι → Option (List β × α)} {related : α → γ → Prop}
  {table : List β → Option γ} {address : List β}

/-- The table selects the value of the selected route. -/
theorem Presents.lookup
    {index : ι} {original : α}
    (presents : Presents routes related table)
    (selects : Selects routes address index original) :
    ∃ value, lookup table address = some value ∧ related original value := by
  obtain ⟨found, isRoute, isPrefix, longest⟩ := selects.selected
  obtain ⟨value, known, stands⟩ := presents.complete index found original isRoute
  refine ⟨value, lookup_eq_some_iff.mpr ⟨found, isPrefix, known, ?_⟩, stands⟩
  intro other otherPrefix isKnown
  obtain ⟨otherValue, otherKnown⟩ := Option.isSome_iff_exists.mp isKnown
  obtain ⟨otherIndex, otherOriginal, otherRoute⟩ := presents.sound other otherValue otherKnown
  exact longest otherIndex other otherOriginal otherRoute otherPrefix

/-- The table selects nothing when no route is selected. -/
theorem Presents.lookup_none
    (presents : Presents routes related table)
    (unselected : ∀ index original, ¬Selects routes address index original) :
    LongestPrefix.lookup table address = none := by
  cases known : LongestPrefix.lookup table address with
  | none => rfl
  | some value =>
      obtain ⟨found, isPrefix, isKnown, longest⟩ := lookup_eq_some_iff.mp known
      obtain ⟨index, original, isRoute⟩ := presents.sound found value isKnown
      refine absurd ⟨found, isRoute, isPrefix, ?_⟩ (unselected index original)
      intro other otherFound otherOriginal otherRoute otherPrefix
      obtain ⟨otherValue, otherKnown, _⟩ :=
        presents.complete other otherFound otherOriginal otherRoute
      exact longest otherFound otherPrefix (by simp [otherKnown])

end LongestPrefix
end XpliantSwitchd
