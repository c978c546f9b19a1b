import Mathlib.Data.Set.List
import TemplateFacts.Proofs.Path.Components

/-!
Paths that go down from the root: how one is seen from another, what is left of that without its last
component, and where a path leads that climbs before it goes down again.
-/

namespace TemplateFacts.Path

/-- The path goes down from the root, by names alone. -/
def Descends (path : Path) : Prop :=
  path.isAbsolute = true ∧ ∀ c ∈ path.components, c ≠ .current ∧ c ≠ .parent

instance (path : Path) : Decidable path.Descends := inferInstanceAs (Decidable (_ ∧ _))

/-- The path lies inside a folder, and is not the folder itself. -/
def LiesIn (path folder : Path) : Prop :=
  ∃ more, more ≠ [] ∧ path.components = folder.components ++ more

/-- The components that lead from one path to another: climbing to what both have in common, and then
going down. -/
def way (base target : Path) : List Component :=
  let common := commonLength base.components target.components
  List.replicate (base.components.length - common) .parent ++ target.components.drop common

/-- How often the folder of a target, as it is seen from a base, climbs. -/
def climbs (base target : Path) : Nat :=
  -- A target above the base is seen as climbing only, the last time of which is cut off.
  let common := commonLength base.components target.components
  if target.components.drop common = [] then base.components.length - common - 1
  else base.components.length - common

/-- The names by which the folder of a target, as it is seen from a base, goes down. -/
def descents (base target : Path) : List Component :=
  (target.components.drop (commonLength base.components target.components)).dropLast

variable {base target : Path}

/-- A path that goes down from the root has names behind the root. -/
theorem Descends.components {path : Path} (descends : path.Descends) :
    ∃ names : List String, path.components = .root :: names.map .name ∧
      ∀ name ∈ names, (Component.name name).IsPlain := by
  obtain ⟨absolute, settled⟩ := descends
  have split : path.components = .root :: path.bodyComponents := by
    rw [Path.components, if_pos absolute]
  -- Each component of the body is a name, as it does not climb.
  have named : ∀ c ∈ path.bodyComponents, c ∈ Set.range Component.name := by
    intro c member
    have plain := isPlain_of_mem_bodyComponents member
    obtain ⟨-, noClimb⟩ := settled c (by rw [split]; exact List.mem_cons_of_mem _ member)
    cases c with
    | root => exact plain.elim
    | current => exact plain.elim
    | parent => exact absurd rfl noClimb
    | name s => exact ⟨s, rfl⟩
  obtain ⟨names, body⟩ : path.bodyComponents ∈ Set.range (List.map Component.name) := by
    rw [Set.range_list_map]
    exact named
  refine ⟨names, by rw [split, body], fun name member => @isPlain_of_mem_bodyComponents path _ ?_⟩
  rw [← body]
  exact List.mem_map_of_mem member

/-- Up to what they have in common, two lists are the same. -/
theorem take_commonLength (as bs : List Component) :
    as.take (commonLength as bs) = bs.take (commonLength as bs) := by
  -- The common components are equal one by one.
  fun_induction commonLength as bs with
  | case1 as b bs ih => rw [List.take_succ_cons, List.take_succ_cons, ih]
  | case2 => rfl
  | case3 => rfl

/-- A list has all in common with its beginnings. -/
theorem commonLength_append_left (as more : List Component) :
    commonLength (as ++ more) as = as.length := by
  -- Every component of the shorter list is common.
  induction as with
  | nil => simp [commonLength]
  | cons a as ih => simp [commonLength, ih]

/-- A list that another one has all in common with begins with it. -/
theorem prefix_of_commonLength {as bs : List Component} (all : as.length ≤ commonLength as bs) :
    as <+: bs := by
  -- All of the first list is the common part, which begins the second.
  have same := take_commonLength as bs
  rw [List.take_of_length_le all] at same
  rw [same]
  exact List.take_prefix _ _

/-- Two paths from the root have the root in common. -/
theorem commonLength_pos (from_ : base.Descends) (to_ : target.Descends) :
    0 < commonLength base.components target.components := by
  -- Both begin with the root.
  obtain ⟨bases, first, -⟩ := from_.components
  obtain ⟨targets, second, -⟩ := to_.components
  rw [first, second, commonLength, if_pos rfl]
  exact Nat.succ_pos _

/-- Behind what a path has in common with another one, there are names only. -/
theorem drop_commonLength (from_ : base.Descends) (to_ : target.Descends) :
    ∃ names : List String,
      target.components.drop (commonLength base.components target.components) = names.map .name ∧
        ∀ name ∈ names, (Component.name name).IsPlain := by
  obtain ⟨count, common⟩ := Nat.exists_eq_succ_of_ne_zero (commonLength_pos from_ to_).ne'
  obtain ⟨names, components, plain⟩ := to_.components
  -- The root is in common.
  refine ⟨names.drop count, ?_, fun name member => plain name (List.mem_of_mem_drop member)⟩
  rw [common, components, List.drop_succ_cons, List.map_drop]

/-- The folder of a path is seen as going down by names. -/
theorem descents_eq_map (from_ : base.Descends) (to_ : target.Descends) :
    ∃ names : List String, descents base target = names.map .name ∧
      ∀ name ∈ names, (Component.name name).IsPlain := by
  -- What is behind the common part are names, and the last of them is left out.
  obtain ⟨names, down, plain⟩ := drop_commonLength from_ to_
  refine ⟨names.dropLast, ?_, fun name member => plain name (List.dropLast_subset _ member)⟩
  rw [descents, down, List.map_dropLast]

/-- A way climbs, and goes down by names. -/
theorem isPlain_way (from_ : base.Descends) (to_ : target.Descends) : ∀ c ∈ way base target, c.IsPlain := by
  -- The way is made of climbs and of names.
  obtain ⟨names, down, plain⟩ := drop_commonLength from_ to_
  intro c member
  rw [way, down] at member
  rcases List.mem_append.mp member with up | inside
  · rw [(List.mem_replicate.mp up).2]
    exact trivial
  · obtain ⟨name, named, rfl⟩ := List.mem_map.mp inside
    exact plain name named

/-- A path that goes down from the root has no dot to leave out. -/
theorem Descends.steps {path : Path} (descends : path.Descends) : path.steps = path.components :=
  List.filter_eq_self.mpr fun c member => by simpa using (descends.2 c member).1

/-- A path is seen from another one as the way to it. -/
theorem relativeTo_eq_way (from_ : base.Descends) (to_ : target.Descends) :
    relativeTo base target = ofComponents (way base target) := by
  -- With the root in common the two lists are not cut anywhere else.
  have common := commonLength_pos from_ to_
  rw [relativeTo_eq, from_.steps, to_.steps, beq_eq_false_iff_ne.mpr common.ne', Bool.false_and,
    if_neg Bool.false_ne_true, way]

/-- A path as it is seen from another one has the components of the way to it. -/
theorem components_relativeTo (from_ : base.Descends) (to_ : target.Descends) :
    (relativeTo base target).components = way base target := by
  -- The way is made of plain components, which are read back as they were joined.
  rw [relativeTo_eq_way from_ to_, components_ofComponents (isPlain_way from_ to_)]

/-- Without its last component, a way climbs and goes down. -/
theorem dropLast_way (base target : Path) :
    (way base target).dropLast = List.replicate (climbs base target) .parent ++ descents base target := by
  rw [way, climbs, descents]
  -- It ends by climbing only if there is nothing to go down to.
  split
  · rename_i none
    rw [none, List.append_nil, List.dropLast_replicate, List.dropLast_nil, List.append_nil]
  · rename_i some
    rw [List.dropLast_append_of_ne_nil some]

/-- What is seen of a path from another one has a parent unless there is nothing to see: the way to it
without its last component. -/
theorem parent?_relativeTo (from_ : base.Descends) (to_ : target.Descends) :
    way base target = [] ∧ (relativeTo base target).parent? = none ∨
      ∃ folder, (relativeTo base target).parent? = some folder ∧
        folder.components = (way base target).dropLast := by
  -- The parent is written without the last of the components of the way.
  have components := components_relativeTo from_ to_
  rcases List.eq_nil_or_concat (way base target) with none | ⟨init, last, ends⟩
  · refine .inl ⟨none, ?_⟩
    rw [relativeTo_eq_way from_ to_, none]
    decide
  · right
    rw [List.concat_eq_append] at ends
    have plain : last.IsPlain := isPlain_way from_ to_ last (by rw [ends]; simp)
    have seen : (relativeTo base target).components.getLast? = some last := by
      rw [components, ends, List.getLast?_concat]
    obtain ⟨folder, parent, split⟩ := parent?_of_last plain seen
    refine ⟨folder, parent, ?_⟩
    rw [components, ends] at split
    rw [ends, List.dropLast_concat, List.append_cancel_right split]

section Resolving

/-- The root is kept. -/
theorem resolveOnto_root (kept rest : List Component) :
    resolveOnto kept (.root :: rest) = resolveOnto (.root :: kept) rest := by
  simp [resolveOnto]

/-- Names are kept as they come. -/
theorem resolveOnto_names (kept : List Component) (names : List String) (rest : List Component) :
    resolveOnto kept (names.map .name ++ rest) = resolveOnto ((names.map .name).reverse ++ kept) rest := by
  -- Each name is entered on top of what was kept.
  induction names generalizing kept with
  | nil => rfl
  | cons name names ih => simp [resolveOnto, ih]

/-- Climbing takes away the nearest names, and stays at the root when there are no more. -/
theorem resolveOnto_climbs (names : List String) (count : Nat) (rest : List Component) :
    resolveOnto (names.map .name ++ [.root]) (List.replicate count .parent ++ rest) =
      resolveOnto ((names.drop count).map .name ++ [.root]) rest := by
  -- Each climb takes one name away, and none takes the root.
  induction count generalizing names with
  | zero => rfl
  | succ count ih =>
    rw [List.replicate_succ, List.cons_append]
    cases names with
    | nil => simpa [resolveOnto] using ih []
    | cons name names => simpa [resolveOnto] using ih names

/-- The path of the root and of plain components has just these. -/
theorem components_ofComponents_root {cs : List Component} (plain : ∀ c ∈ cs, c.IsPlain) :
    (ofComponents (.root :: cs)).components = .root :: cs := by
  -- Joined onto the root one by one, the components are read back.
  have root : (⟨"/"⟩ : Path).components = [.root] := by decide
  have joined := components_foldl_join ⟨"/"⟩ plain
  rw [root] at joined
  exact joined

/-- Where a path from the root leads that goes down, climbs, and goes down again. -/
theorem components_absolutize (directory : Path) {path : Path} {names down : List String} {count : Nat}
    (plain : ∀ name ∈ names ++ down, (Component.name name).IsPlain)
    (components : path.components =
      .root :: (names.map .name ++ (List.replicate count .parent ++ down.map .name))) :
    (absolutize directory path).components =
      .root :: ((names.take (names.length - count)).map .name ++ down.map .name) := by
  have absolute : path.isAbsolute = true := by
    rw [← root_mem_components, components]
    exact List.mem_cons_self
  have joined : directory.join path = path := by rw [join, if_pos absolute]
  -- The names are kept with the nearest first.
  have resolved : resolveOnto [] path.components =
      .root :: ((names.take (names.length - count)).map .name ++ down.map .name) := by
    have names_reverse : (names.map Component.name).reverse ++ [.root] =
        names.reverse.map .name ++ [.root] := by rw [List.map_reverse]
    have ending := resolveOnto_names ((names.reverse.drop count).map .name ++ [.root]) down []
    rw [List.append_nil] at ending
    rw [components, resolveOnto_root, resolveOnto_names, names_reverse, resolveOnto_climbs, ending]
    simp [resolveOnto, List.drop_reverse]
  rw [absolutize, joined, resolved]
  refine components_ofComponents_root fun c member => ?_
  rw [← List.map_append] at member
  obtain ⟨name, inside, rfl⟩ := List.mem_map.mp member
  refine plain name (List.mem_append.mpr ?_)
  exact (List.mem_append.mp inside).imp_left List.mem_of_mem_take

end Resolving

end TemplateFacts.Path
