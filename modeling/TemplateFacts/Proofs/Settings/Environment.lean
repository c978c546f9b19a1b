import Mathlib.Data.List.Induction
import Mathlib.Data.List.Nodup
import TemplateFacts.Proofs.Contract.Demands
import TemplateFacts.Proofs.Settings.Stack

/-!
What the environment sets: a variable sets one key, and no other variable sets the key of a setting.
-/

namespace TemplateFacts.Settings

namespace Environment

/-- The variable of a setting, in small letters. -/
def variableOf (field : Field) : String := beginning ++ field.home ++ "__" ++ field.name

/-- The value that variables give a setting. -/
def given? (environment : List (String × String)) (field : Field) : Option Value :=
  (environment.find? fun v => Text.lower v.1 == variableOf field).map fun v => valueOf field.key v.2

/-- What variables set, as far as it concerns sections, are settings. -/
def SetsFields (environment : List (String × String)) : Prop :=
  ∀ v ∈ environment, ∀ key, keyOf? v.1 = some key →
    (Key.ofText key).Beside ∨ ∃ field, Text.lower v.1 = variableOf field

variable {environment : List (String × String)} {name key : String} {field : Field}

/-- The variable of a setting sets its key. -/
theorem keyOf?_of_lower (lowered : Text.lower name = variableOf field) :
    keyOf? name = some field.key := by
  -- Each field's variable is spelled out, and its key is read from it.
  rw [keyOf?, lowered]
  cases field <;> decide +kernel

/-- Settings have keys of their own. -/
theorem key_injective {field other : Field} (same : field.key = other.key) : field = other := by
  cases field <;> cases other <;> first | rfl | exact absurd same (by decide)

/-- The key of a setting does not lead beside all settings. -/
theorem not_beside_key (field : Field) : ¬ (Key.ofText field.key).Beside := by
  -- A field's key is the field's own, with no path behind it.
  intro beside
  rw [field.ofText_key] at beside
  obtain ⟨name, rest, other⟩ := beside field rfl
  cases rest
  exact other rfl

/-- The text of a variable never stands for a table. -/
theorem not_isTable_valueOf (key text : String) : ¬ (valueOf key text).IsTable := by
  rintro ⟨entries, origin, table⟩
  -- Each way to take a text makes a scalar of it, or a list.
  unfold valueOf at table
  dsimp only at table
  split at table
  · cases table
  · split at table
    · cases table
    · split at table
      · cases table
      · split at table
        · cases table
        · split at table <;> cases table

/-- The last variable sets its key over all others. -/
theorem layer_concat (environment : List (String × String)) (v : String × String) :
    layer (environment ++ [v]) =
      match keyOf? v.1 with
      | some key => putEntry key (valueOf key v.2) (layer environment)
      | none => layer environment := by
  rw [layer, List.foldl_concat]
  rfl

/-- What the environment sets is set by a variable. -/
theorem exists_variable {entry : String × Value} (member : entry ∈ layer environment) :
    ∃ v ∈ environment, keyOf? v.1 = some entry.1 ∧ entry.2 = valueOf entry.1 v.2 := by
  -- By induction on the variables, the last of which is set over the others.
  induction environment using List.reverseRecOn with
  | nil => cases member
  | append_singleton environment v ih =>
    rw [layer_concat] at member
    have before (member : entry ∈ layer environment) :
        ∃ v' ∈ environment ++ [v], keyOf? v'.1 = some entry.1 ∧ entry.2 = valueOf entry.1 v'.2 := by
      obtain ⟨v', member', sets⟩ := ih member
      exact ⟨v', List.mem_append_left _ member', sets⟩
    split at member
    · rename_i key found
      rcases mem_putEntry member with rfl | member
      · exact ⟨v, List.mem_append_right _ List.mem_cons_self, found, by dsimp only⟩
      · exact before member
    · exact before member

/-- What a variable sets is set by the environment, though not always to the same value. -/
theorem isSome_lookup_layer {v : String × String} (member : v ∈ environment)
    (found : keyOf? v.1 = some key) : ((layer environment).lookup key).isSome = true := by
  -- By induction on the variables: later ones may replace the entry, but do not remove it.
  induction environment using List.reverseRecOn with
  | nil => cases member
  | append_singleton environment last ih =>
    rw [layer_concat]
    rcases List.mem_append.mp member with earlier | here
    · split
      · rw [lookup_putEntry]
        split
        · rfl
        · exact ih earlier
      · exact ih earlier
    · obtain rfl := List.mem_singleton.mp here
      rw [found, lookup_putEntry, if_pos rfl]
      rfl

section Given

variable (sets : SetsFields environment)

include sets

/-- Only the variable of a setting sets its key. -/
theorem lower_of_keyOf? {v : String × String} (member : v ∈ environment)
    (found : keyOf? v.1 = some field.key) : Text.lower v.1 = variableOf field := by
  -- A variable that gives this key is the one spelt for the field.
  rcases sets v member _ found with beside | ⟨other, lowered⟩
  · exact absurd beside (not_beside_key field)
  · have same := (keyOf?_of_lower lowered).symm.trans found
    rw [lowered, key_injective (Option.some.inj same)]

/-- The environment sets nothing but settings in sections. -/
theorem setsFields_layer {entry : String × Value} (member : entry ∈ layer environment) :
    Settings.SetsFields entry := by
  -- Either the key is beside every field, or it is one field's and its value is single.
  obtain ⟨v, member, found, value⟩ := exists_variable member
  rcases sets v member _ found with beside | ⟨field, lowered⟩
  · exact .beside beside
  · have key : field.key = entry.1 := Option.some.inj ((keyOf?_of_lower lowered).symm.trans found)
    exact .single field (key ▸ field.ofText_key) (value ▸ not_isTable_valueOf _ _)

/-- An entry that the environment makes sets a setting under the key of this setting only. -/
theorem within?_of_mem_layer {entry : String × Value} (member : entry ∈ layer environment)
    (field : Field) : field.within? entry = if entry.1 = field.key then some entry.2 else none := by
  -- A variable sets the setting whose key it is, or leads beside all settings.
  obtain ⟨v, member, found, -⟩ := exists_variable member
  rw [Field.within?]
  by_cases same : entry.1 = field.key
  · rw [same, field.ofText_key]
    simp
  · rw [if_neg same]
    rcases sets v member _ found with beside | ⟨other, lowered⟩
    · split
      · rename_i home
        obtain ⟨name, rest, other⟩ := beside field home.symm
        rw [rest]
        simp [other]
      · rfl
    · have key : other.key = entry.1 := Option.some.inj ((keyOf?_of_lower lowered).symm.trans found)
      have apart : other.name ≠ field.name := fun name =>
        same (key ▸ congrArg Field.key (Field.eq_of_name name))
      rw [← key, other.ofText_key]
      simp [apart]

/-- The environment gives a setting the value of its variable, names that differ in case only being
excluded. -/
theorem given?_layer (apart : (environment.map fun v => Text.lower v.1).Nodup) (field : Field) :
    field.given? (layer environment) = given? environment field := by
  rw [given?, Field.given?]
  cases found : environment.find? fun v => Text.lower v.1 == variableOf field with
  | none =>
    refine List.findSome?_eq_none_iff.mpr fun entry member => ?_
    rw [List.mem_reverse] at member
    rw [within?_of_mem_layer sets member, if_neg]
    intro key
    obtain ⟨v, member, sets', -⟩ := exists_variable member
    have lowered := lower_of_keyOf? sets member (key ▸ sets')
    exact List.find?_eq_none.mp found v member (beq_iff_eq.mpr lowered)
  | some v =>
    have member := List.mem_of_find?_eq_some found
    have lowered : Text.lower v.1 = variableOf field := by simpa using List.find?_some found
    have set := isSome_lookup_layer member (keyOf?_of_lower lowered)
    -- Some entry is found, and every entry that may be found has the value of the variable.
    obtain ⟨entry, inside, same⟩ := Json.isSome_lookup.mp set
    cases taken : (layer environment).reverse.findSome? field.within? with
    | none =>
      have := List.findSome?_eq_none_iff.mp taken entry (List.mem_reverse.mpr inside)
      rw [within?_of_mem_layer sets inside, if_pos same] at this
      cases this
    | some x =>
      obtain ⟨entry', inside', within⟩ := List.exists_of_findSome?_eq_some taken
      rw [List.mem_reverse] at inside'
      rw [within?_of_mem_layer sets inside'] at within
      split at within
      · rename_i key
        obtain rfl := Option.some.inj within
        obtain ⟨v', member', sets', value⟩ := exists_variable inside'
        have lowered' := lower_of_keyOf? sets member' (key ▸ sets')
        have one : v' = v := List.inj_on_of_nodup_map apart member' member (lowered'.trans lowered.symm)
        rw [value, key, one]
        rfl
      · cases within

end Given

end Environment

end TemplateFacts.Settings
