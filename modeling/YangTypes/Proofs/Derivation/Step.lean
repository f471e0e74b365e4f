import Mathlib.Tactic
import YangTypes.Derivation.Build
import YangTypes.Proofs.Outcome

/-!
What one step of derivation can do.

Every property of chains of derivations rests on the few statements of this
module, and none of them opens the builder again.

* `Declaration.Selection`: how a step picks the declarations of one keyword out of
  its statements.
* `Narrowed`: what a step makes of the constraints of its base. Without a
  statement they stay; a single statement replaces them by what `narrow` makes
  of its parts.
* `FacetStep`: what a step makes of the facets of its base, one case for each
  built-in type; `derivedFacets_step` says that these are all cases.
* `deriveUnionMembers_eq_ok`: the same for the members of a union.
* `RootStep`: what the statements of a built-in type that needs an argument make
  without a base; `rootBody_step` says that these are all cases.
* `build_eq_ok`: a built type is the new body with the base that it was built on.
-/

namespace YangTypes

/-! ### Declarations -/

namespace Declaration

/-- How what is declared is selected: for each keyword, the function that takes
the declarations with the keyword, and the one that makes them. -/
inductive Selection : {α : Type} → Keyword → (Declaration → Option α) → (α → Declaration) → Prop
  | range : Selection .range range? .range
  | length : Selection .length length? .length
  | pattern : Selection .pattern pattern? .pattern
  | fractionDigits : Selection .fractionDigits fractionDigits? .fractionDigits
  | base : Selection .base base? .base
  | path : Selection .path path? .path
  | requireInstance : Selection .requireInstance requireInstance? .requireInstance
  | bit : Selection .bit bit? .bit
  | enum : Selection .enum enum? .enum
  | type : Selection .type type? .type
  | description : Selection .description description? .description
  | reference : Selection .reference reference? .reference
  | status : Selection .status status? .status
  | units : Selection .units units? .units
  | default : Selection .default default? .default

namespace Selection

variable {α : Type} {keyword : Keyword} {f : Declaration → Option α} {make : α → Declaration}
  {decl : Declaration} {a : α}

/-- A selection takes what it makes, and nothing else. -/
lemma eq_some_iff (h : Selection keyword f make) : f decl = some a ↔ decl = make a := by
  cases h <;> cases decl <;>
    simp [range?, length?, pattern?, fractionDigits?, base?, path?, requireInstance?, bit?, enum?,
      type?, description?, reference?, status?, units?, default?]

lemma keyword_eq (h : Selection keyword f make) (ha : f decl = some a) :
    decl.keyword = keyword := by
  rw [h.eq_some_iff.mp ha]
  cases h <;> rfl

end Selection

end Declaration

/-- Statements of a keyword that the kind does not allow are not there. -/
lemma Derivation.declared_eq_nil {d : Derivation} (h : d.unsupported? = none) {α : Type}
    {keyword : Keyword} {f : Declaration → Option α} {make : α → Declaration}
    (hf : Declaration.Selection keyword f make)
    (hallows : d.start.kind.allows keyword = false) : d.declared f = [] := by
  rw [Derivation.declared, Statement.select, List.filterMap_eq_nil_iff]
  intro s hs
  rw [Option.map_eq_none_iff, Option.eq_none_iff_forall_ne_some]
  intro a ha
  rw [Derivation.unsupported?, List.find?_eq_none] at h
  have hsupported := h s hs
  rw [hf.keyword_eq ha, hallows] at hsupported
  simp at hsupported

/-! ### Folding over declarations -/

lemma foldLocated_cons_eq_ok {α σ : Type} {f : σ → α → Except TypeFault σ} {s s' : σ}
    {decl : Located α} {decls : List (Located α)} :
    foldLocated f s (decl :: decls) = .ok s' ↔
      ∃ s₁, f s decl.value = .ok s₁ ∧ foldLocated f s₁ decls = .ok s' := by
  rw [foldLocated]
  cases f s decl.value <;> simp

lemma foldLocated_concat_eq_ok {α σ : Type} {f : σ → α → Except TypeFault σ} {s s' : σ}
    {decl : Located α} {decls : List (Located α)} :
    foldLocated f s (decls ++ [decl]) = .ok s' ↔
      ∃ s₁, foldLocated f s decls = .ok s₁ ∧ f s₁ decl.value = .ok s' := by
  induction decls generalizing s with
  | nil =>
      rw [List.nil_append, foldLocated_cons_eq_ok]
      simp [foldLocated]
  | cons first decls ih =>
      simp only [List.cons_append, foldLocated_cons_eq_ok, ih]
      exact ⟨fun ⟨s₁, hfirst, s₂, hrest, hlast⟩ => ⟨s₂, ⟨s₁, hfirst, hrest⟩, hlast⟩,
        fun ⟨s₂, ⟨s₁, hfirst, hrest⟩, hlast⟩ => ⟨s₁, hfirst, s₂, hrest, hlast⟩⟩

/-- A fold fails at the first declaration that its step does not take, and is
taken up to there. -/
lemma foldLocated_eq_error {α σ : Type} {f : σ → α → Except TypeFault σ} {s : σ}
    {decls : List (Located α)} {e : TypeError} (h : foldLocated f s decls = .error e) :
    ∃ before decl after s₁, decls = before ++ decl :: after ∧ foldLocated f s before = .ok s₁ ∧
      f s₁ decl.value = .error e.fault ∧ e.location = decl.location := by
  induction decls generalizing s with
  | nil => simp [foldLocated] at h
  | cons decl decls ih =>
      rw [foldLocated] at h
      cases hstep : f s decl.value with
      | error fault =>
          rw [hstep] at h
          obtain rfl := Except.error.inj h
          exact ⟨[], decl, decls, s, rfl, rfl, hstep, rfl⟩
      | ok s' =>
          rw [hstep] at h
          obtain ⟨before, failing, after, s₁, rfl, hbefore, hfault, hlocation⟩ := ih h
          exact ⟨decl :: before, failing, after, s₁, rfl,
            foldLocated_cons_eq_ok.mpr ⟨s', hstep, hbefore⟩, hfault, hlocation⟩

/-- A fold whose step works only once has at most one declaration. -/
lemma foldLocated_once {α σ : Type} {f : σ → α → Except TypeFault σ} {Unset : σ → Prop}
    (hunset : ∀ s a s', f s a = .ok s' → Unset s ∧ ¬ Unset s') {s s' : σ}
    {decls : List (Located α)} (h : foldLocated f s decls = .ok s') :
    decls = [] ∧ s' = s ∨ ∃ decl, decls = [decl] ∧ f s decl.value = .ok s' := by
  cases decls with
  | nil => exact .inl ⟨rfl, (Except.ok.inj h).symm⟩
  | cons decl decls =>
      obtain ⟨s₁, hfirst, hrest⟩ := foldLocated_cons_eq_ok.mp h
      cases decls with
      | nil =>
          obtain rfl := Except.ok.inj hrest
          exact .inr ⟨decl, rfl, hfirst⟩
      | cons second rest =>
          obtain ⟨s₂, hsecond, -⟩ := foldLocated_cons_eq_ok.mp hrest
          exact absurd (hunset _ _ _ hsecond).1 (hunset _ _ _ hfirst).2

/-- What every step of a fold keeps holds at its end. -/
lemma foldLocated_invariant {α σ : Type} {f : σ → α → Except TypeFault σ} {P : σ → Prop}
    (hstep : ∀ s a s', P s → f s a = .ok s' → P s') {s s' : σ} {decls : List (Located α)}
    (hs : P s) (h : foldLocated f s decls = .ok s') : P s' := by
  induction decls generalizing s with
  | nil => exact Except.ok.inj h ▸ hs
  | cons decl decls ih =>
      obtain ⟨s₁, hfirst, hrest⟩ := foldLocated_cons_eq_ok.mp h
      exact ih (hstep _ _ _ hs hfirst) hrest

/-- A change of the state that takes every step of a fold to a step of another
one takes the fold to the other one, errors included. -/
lemma foldLocated_map {α σ τ : Type} {f : σ → α → Except TypeFault σ}
    {f' : τ → α → Except TypeFault τ} {g : σ → τ} {P : σ → Prop} {decls : List (Located α)}
    (hcomm : ∀ s, P s → ∀ decl ∈ decls, f' (g s) decl.value = (f s decl.value).map g)
    (hkeep : ∀ s, P s → ∀ decl ∈ decls, ∀ s', f s decl.value = .ok s' → P s') {s : σ} (hs : P s) :
    foldLocated f' (g s) decls = (foldLocated f s decls).map g := by
  induction decls generalizing s with
  | nil => rfl
  | cons decl decls ih =>
      rw [foldLocated, foldLocated, hcomm s hs decl List.mem_cons_self]
      cases hstep : f s decl.value with
      | error fault => rfl
      | ok s' =>
          exact ih (fun s hs other hother => hcomm s hs other (List.mem_cons_of_mem _ hother))
            (fun s hs other hother => hkeep s hs other (List.mem_cons_of_mem _ hother))
            (hkeep s hs decl List.mem_cons_self s' hstep)

/-- A fold that appends what it makes of each declaration. -/
lemma foldLocated_append {α β : Type} {f : List β → α → Except TypeFault β}
    {R : Located α → β → Prop} (hR : ∀ acc decl b, f acc decl.value = .ok b → R decl b)
    {acc result : List β} {decls : List (Located α)}
    (h : foldLocated (fun acc a => (f acc a).map fun b => acc ++ [b]) acc decls = .ok result) :
    ∃ added, result = acc ++ added ∧ List.Forall₂ R decls added := by
  induction decls generalizing acc with
  | nil => exact ⟨[], by rw [List.append_nil]; exact (Except.ok.inj h).symm, .nil⟩
  | cons decl decls ih =>
      obtain ⟨_, hfirst, hrest⟩ := foldLocated_cons_eq_ok.mp h
      obtain ⟨b, hb, rfl⟩ := map_eq_ok.mp hfirst
      obtain ⟨added, rfl, hadded⟩ := ih hrest
      exact ⟨b :: added, by simp, .cons (hR _ _ _ hb) hadded⟩

lemma exists_left_of_forall₂ {α β : Type} {R : α → β → Prop} {as : List α} {bs : List β}
    (h : List.Forall₂ R as bs) {b : β} (hb : b ∈ bs) : ∃ a ∈ as, R a b := by
  induction h with
  | nil => simp at hb
  | cons hab _ ih =>
      rcases List.mem_cons.mp hb with rfl | hb'
      · exact ⟨_, by simp, hab⟩
      · obtain ⟨a, ha, hr⟩ := ih hb'
        exact ⟨a, by simp [ha], hr⟩

lemma exists_right_of_forall₂ {α β : Type} {R : α → β → Prop} {as : List α} {bs : List β}
    (h : List.Forall₂ R as bs) {a : α} (ha : a ∈ as) : ∃ b ∈ bs, R a b :=
  exists_left_of_forall₂ (List.Forall₂.flip (R := flip R) h) ha

/-! ### Bounds -/

/-- The interval that a part of an argument stands for, with respect to the
constraints of the base. -/
def ResolvesTo (base : List Constraint) (read : String → Except Violation Number)
    (pair : BoundPair) (interval : Interval) : Prop :=
  resolveEnd base read pair.low = .ok interval.low ∧
    resolveEnd base read pair.high = .ok interval.high

/-- Parts are resolved one by one. -/
lemma resolveParts_eq_ok {keyword : BoundKeyword} {base : List Constraint}
    {read : String → Except Violation Number} {doc : RestrictionDoc} {pairs : List BoundPair}
    {candidate : List Constraint} :
    resolveParts keyword base read doc pairs = .ok candidate ↔
      List.Forall₂ (fun pair c => ∃ interval, ResolvesTo base read pair interval ∧
        c = Constraint.make keyword interval doc) pairs candidate := by
  induction pairs generalizing candidate with
  | nil => simp [resolveParts, eq_comm]
  | cons pair pairs ih =>
      rw [resolveParts, List.forall₂_cons_left_iff]
      simp only [bind_eq_ok, pure_eq_ok, ih]
      constructor
      · rintro ⟨low, hlow, high, hhigh, rest, hrest, rfl⟩
        exact ⟨_, rest, ⟨⟨low, high⟩, ⟨hlow, hhigh⟩, rfl⟩, hrest, rfl⟩
      · rintro ⟨_, rest, ⟨⟨low, high⟩, ⟨hlow, hhigh⟩, rfl⟩, hrest, rfl⟩
        exact ⟨low, hlow, high, hhigh, rest, hrest, rfl⟩

/-- What a step makes of the constraints of its base. A second statement is an
error, so there is at most one. -/
inductive Narrowed (keyword : BoundKeyword) (read : String → Except Violation Number)
    (base : List Constraint) : List (Located BoundsDecl) → List Constraint → Prop where
  | inherited : Narrowed keyword read base [] base
  | replaced {decl : Located BoundsDecl} {candidate result : List Constraint}
      (parts : resolveParts keyword base read decl.value.doc decl.value.parts = .ok candidate)
      (narrows : narrow keyword base candidate = .ok result) :
      Narrowed keyword read base [decl] result

/-- Bounds are taken once, and narrow those of the base. -/
lemma setBounds_eq_ok {keyword : BoundKeyword} {acc acc' : Accumulator}
    {candidate : List Constraint} :
    acc.setBounds keyword candidate = .ok acc' ↔
      acc.bounds keyword = none ∧ ∃ result,
        narrow keyword (acc.base.bounds keyword) candidate = .ok result ∧
          acc' = acc.withBounds (some result) keyword := by
  rw [Accumulator.setBounds]
  cases acc.bounds keyword with
  | some bounds => simp
  | none =>
      simp only [map_eq_ok, true_and]
      exact exists_congr fun result => and_congr_right' eq_comm

namespace Accumulator

variable {acc : Accumulator} {keyword : BoundKeyword}

@[simp] lemma bounds_withBounds (bounds : Option (List Constraint)) :
    (acc.withBounds bounds keyword).bounds keyword = bounds := by
  cases keyword <;> rfl

lemma withBounds_bounds : acc.withBounds (acc.bounds keyword) keyword = acc := by
  cases keyword <;> rfl

end Accumulator

/-- The bounds of a step, and nothing else, come from the statements of their
keyword. -/
lemma applyBounds_eq_ok {keyword : BoundKeyword} {read : String → Except Violation Number}
    {acc acc' : Accumulator} {decls : List (Located BoundsDecl)}
    (hnone : acc.bounds keyword = none) (h : applyBounds keyword read acc decls = .ok acc') :
    ∃ bounds, acc' = acc.withBounds bounds keyword ∧
      Narrowed keyword read (acc.base.bounds keyword) decls
        (bounds.getD (acc.base.bounds keyword)) := by
  have honce : ∀ (acc : Accumulator) (decl : BoundsDecl) (acc' : Accumulator),
      resolveParts keyword (acc.base.bounds keyword) read decl.doc decl.parts >>=
          acc.setBounds keyword = .ok acc' →
        acc.bounds keyword = none ∧ ¬ acc'.bounds keyword = none := by
    intro acc decl acc' hset
    obtain ⟨candidate, -, hset⟩ := bind_eq_ok.mp hset
    obtain ⟨hnone, result, -, rfl⟩ := setBounds_eq_ok.mp hset
    exact ⟨hnone, by simp⟩
  rcases foldLocated_once honce h with ⟨rfl, rfl⟩ | ⟨decl, rfl, hset⟩
  · exact ⟨none, by rw [← hnone, Accumulator.withBounds_bounds], .inherited⟩
  · obtain ⟨candidate, hparts, hset⟩ := bind_eq_ok.mp hset
    obtain ⟨-, result, hnarrow, rfl⟩ := setBounds_eq_ok.mp hset
    exact ⟨some result, rfl, .replaced hparts hnarrow⟩

/-- A declaration makes a pattern. -/
def MakesPattern (decl : Located PatternDecl) (p : Pattern) : Prop :=
  Pattern.make decl.value.regex decl.value.inverted decl.value.doc = .ok p

/-- The patterns of a step are added, in order, to those before them. -/
lemma applyPatterns_eq_ok {acc acc' : Accumulator} {decls : List (Located PatternDecl)}
    (h : applyPatterns acc decls = .ok acc') :
    ∃ added, acc' = { acc with patterns := acc.patterns ++ added } ∧
      List.Forall₂ MakesPattern decls added := by
  induction decls generalizing acc with
  | nil =>
      simp only [applyPatterns, foldLocated, Except.ok.injEq] at h
      exact ⟨[], by rw [List.append_nil, h], .nil⟩
  | cons decl decls ih =>
      rw [applyPatterns, foldLocated_cons_eq_ok] at h
      obtain ⟨acc₁, hadd, hrest⟩ := h
      split at hadd
      next p hp =>
        simp only [Except.ok.injEq] at hadd
        obtain ⟨added, rfl, hadded⟩ := ih hrest
        refine ⟨p :: added, ?_, .cons hp hadded⟩
        simp [← hadd, Accumulator.addPattern]
      next => simp at hadd

/-- Fraction digits change nothing if the base has some. -/
lemma applyFractionDigits_eq_ok {acc acc' : Accumulator} {digits : ℕ}
    {decls : List (Located ℕ)} (hdigits : acc.base.fractionDigits = some digits)
    (h : applyFractionDigits acc decls = .ok acc') : acc' = acc := by
  induction decls generalizing acc with
  | nil =>
      simp only [applyFractionDigits, foldLocated, Except.ok.injEq] at h
      exact h.symm
  | cons decl decls ih =>
      rw [applyFractionDigits, foldLocated_cons_eq_ok] at h
      obtain ⟨acc₁, hset, hrest⟩ := h
      simp only [Accumulator.setFractionDigits, hdigits] at hset
      split at hset
      next => simp at hset
      next =>
        simp only [Except.ok.injEq] at hset
        subst hset
        exact ih hdigits hrest

/-! ### Members -/

/-- A declaration selects a member of the base: the name is the declared one,
and name and value are those of the base. -/
def Selects (base : List Member) (decl : Located MemberDecl) (m : Member) : Prop :=
  m.name = decl.value.name ∧ ∃ b ∈ base, b.name = m.name ∧ b.value = m.value

lemma selects_of_selectMember {kind : MemberKind} {base selected : List Member}
    {decl : Located MemberDecl} {m : Member}
    (h : selectMember kind base selected decl.value = .ok m) : Selects base decl m := by
  rw [selectMember] at h
  split at h
  next => simp at h
  next =>
    split at h
    next => simp at h
    next member hfind =>
      dsimp only at h
      split at h
      next => simp at h
      next =>
        obtain rfl := Except.ok.inj h
        refine ⟨rfl, member, List.mem_of_find?_eq_some hfind, ?_, rfl⟩
        simpa using List.find?_some hfind

/-- A step keeps the members of its base, or selects one for each declaration. -/
lemma derivedMembers_eq_ok {kind : MemberKind} {base members : List Member}
    {decls : List (Located MemberDecl)} (h : derivedMembers kind base decls = .ok members) :
    decls = [] ∧ members = base ∨
      decls ≠ [] ∧ List.Forall₂ (Selects base) decls members := by
  rw [derivedMembers] at h
  split at h
  next hempty => exact .inl ⟨List.isEmpty_iff.mp hempty, (Except.ok.inj h).symm⟩
  next hne =>
    obtain ⟨added, rfl, hadded⟩ := foldLocated_append (fun _ _ _ => selects_of_selectMember) h
    exact .inr ⟨fun h => hne (List.isEmpty_iff.mpr h), hadded⟩

/-! ### Facets -/

/-- The identities after a step: those that it declares, or those of the base
if it declares none. -/
def Derivation.identities (d : Derivation) (inherited : List QualifiedName) :
    List QualifiedName :=
  if (d.declared Declaration.base?).isEmpty then inherited
  else (d.declared Declaration.base?).map Located.value

/-- What a step makes of the facets of its base. -/
inductive FacetStep (d : Derivation) : Facets → Facets → Prop where
  | binary {lengths lengths' : List Constraint}
      (h : Narrowed .length readLength lengths (d.declared Declaration.length?) lengths') :
      FacetStep d (.binary lengths) (.binary lengths')
  | bits {members members' : List Member}
      (h : derivedMembers .bit members (d.declared Declaration.bit?) = .ok members') :
      FacetStep d (.bits members) (.bits members')
  | boolean : FacetStep d .boolean .boolean
  | decimal64 {digits : ℕ} {ranges ranges' : List Constraint}
      (h : Narrowed .range (Derivation.readDecimal digits) ranges
        (d.declared Declaration.range?) ranges') :
      FacetStep d (.decimal64 digits ranges) (.decimal64 digits ranges')
  | empty : FacetStep d .empty .empty
  | enumeration {members members' : List Member}
      (h : derivedMembers .enum members (d.declared Declaration.enum?) = .ok members') :
      FacetStep d (.enumeration members) (.enumeration members')
  | identityref {identities : List QualifiedName} :
      FacetStep d (.identityref identities) (.identityref (d.identities identities))
  | instanceIdentifier {required required' : Bool}
      (h : deriveRequireInstance required (d.declared Declaration.requireInstance?)
        = .ok required') :
      FacetStep d (.instanceIdentifier required) (.instanceIdentifier required')
  | integer {kind : IntegerKind} {ranges ranges' : List Constraint}
      (h : Narrowed .range (fun text => (kind.parse text).map Number.integer) ranges
        (d.declared Declaration.range?) ranges') :
      FacetStep d (.integer kind ranges) (.integer kind ranges')
  | leafref {path path' : String} {required required' : Bool}
      (hpath : d.targetPath path = .ok path')
      (hrequired : deriveRequireInstance required (d.declared Declaration.requireInstance?)
        = .ok required') :
      FacetStep d (.leafref path required) (.leafref path' required')
  | string {lengths lengths' : List Constraint} {patterns added : List Pattern}
      (hlengths : Narrowed .length readLength lengths (d.declared Declaration.length?) lengths')
      (hadded : List.Forall₂ MakesPattern (d.declared Declaration.pattern?) added) :
      FacetStep d (.string lengths patterns) (.string lengths' (patterns ++ added))

/-- Ranges of a decimal type are read with the digits of its base. -/
lemma decimalFacets_eq_ok {d : Derivation} {digits : ℕ} {ranges : List Constraint}
    {pending : List (Located ℕ)} {facets : Facets}
    (h : d.decimalFacets digits ranges pending = .ok facets) :
    ∃ ranges', facets = .decimal64 digits ranges' ∧
      Narrowed .range (Derivation.readDecimal digits) ranges (d.declared Declaration.range?)
        ranges' := by
  simp only [Derivation.decimalFacets, bind_eq_ok, pure_eq_ok] at h
  obtain ⟨acc, hdigits, acc', hranges, rfl⟩ := h
  obtain rfl := applyFractionDigits_eq_ok rfl hdigits
  obtain ⟨result, rfl, hnarrowed⟩ := applyBounds_eq_ok rfl hranges
  exact ⟨_, rfl, hnarrowed⟩

/-- The cases of `FacetStep` are all that a step does to facets. -/
theorem derivedFacets_step {d : Derivation} {facets facets' : Facets}
    (h : d.derivedFacets facets = .ok facets') : FacetStep d facets facets' := by
  cases facets with
  | binary lengths =>
      simp only [Derivation.derivedFacets, bind_eq_ok, pure_eq_ok] at h
      obtain ⟨acc, hlengths, rfl⟩ := h
      obtain ⟨result, rfl, hnarrowed⟩ := applyBounds_eq_ok rfl hlengths
      exact .binary hnarrowed
  | bits members =>
      simp only [Derivation.derivedFacets, bind_eq_ok, pure_eq_ok] at h
      obtain ⟨members', hmembers, rfl⟩ := h
      exact .bits hmembers
  | boolean =>
      simp only [Derivation.derivedFacets, Except.ok.injEq] at h
      subst h
      exact .boolean
  | decimal64 digits ranges =>
      obtain ⟨ranges', rfl, hnarrowed⟩ := decimalFacets_eq_ok h
      exact .decimal64 hnarrowed
  | empty =>
      simp only [Derivation.derivedFacets, Except.ok.injEq] at h
      subst h
      exact .empty
  | enumeration members =>
      simp only [Derivation.derivedFacets, bind_eq_ok, pure_eq_ok] at h
      obtain ⟨members', hmembers, rfl⟩ := h
      exact .enumeration hmembers
  | identityref identities =>
      have hids : facets' = .identityref (d.identities identities) := by
        rw [Derivation.derivedFacets] at h
        rw [Derivation.identities]
        split at h
        next hnone =>
          rw [hnone, List.isEmpty_nil, if_pos rfl]
          exact (Except.ok.inj h).symm
        next decls hsome =>
          rw [if_neg (by rwa [List.isEmpty_iff])]
          exact (Except.ok.inj h).symm
      rw [hids]
      exact .identityref
  | instanceIdentifier required =>
      simp only [Derivation.derivedFacets, bind_eq_ok, pure_eq_ok] at h
      obtain ⟨required', hrequired, rfl⟩ := h
      exact .instanceIdentifier hrequired
  | integer kind ranges =>
      simp only [Derivation.derivedFacets, bind_eq_ok, pure_eq_ok] at h
      obtain ⟨acc, hranges, rfl⟩ := h
      obtain ⟨result, rfl, hnarrowed⟩ := applyBounds_eq_ok rfl hranges
      exact .integer hnarrowed
  | leafref path required =>
      simp only [Derivation.derivedFacets, bind_eq_ok, pure_eq_ok] at h
      obtain ⟨path', hpath, required', hrequired, rfl⟩ := h
      exact .leafref hpath hrequired
  | string lengths patterns =>
      simp only [Derivation.derivedFacets, bind_eq_ok, pure_eq_ok] at h
      obtain ⟨acc, hlengths, acc', hpatterns, rfl⟩ := h
      obtain ⟨result, rfl, hnarrowed⟩ := applyBounds_eq_ok rfl hlengths
      obtain ⟨added, rfl, hadded⟩ := applyPatterns_eq_ok hpatterns
      exact .string hnarrowed hadded

/-! ### Unions -/

lemma TypeDef.derivesFrom_iff {t other : TypeDef} :
    t.derivesFrom other = true ↔ other ∈ t.ancestry := by
  rw [derivesFrom, List.contains_iff_mem]

/-- Members pass if each derives from the member of the base in its place. -/
lemma checkUnionMembers_eq_ok {index : ℕ} {decls : List (Located TypeDef)} {base : List TypeDef}
    (hlen : decls.length = base.length) :
    checkUnionMembers index decls base = .ok () ↔
      List.Forall₂ (fun decl b => decl.value.derivesFrom b = true) decls base := by
  induction decls generalizing index base with
  | nil =>
      obtain rfl : base = [] := List.length_eq_zero_iff.mp hlen.symm
      simp [checkUnionMembers]
  | cons decl decls ih =>
      cases base with
      | nil => simp at hlen
      | cons b base =>
          rw [checkUnionMembers, List.forall₂_cons]
          split
          next hderives => simp [ih (by simpa using hlen), hderives]
          next hnot => simp [hnot]

/-- A derived union has the members of its base, or as many that derive from
them one by one. -/
lemma deriveUnionMembers_eq_ok {base members : List TypeDef} {decls : List (Located TypeDef)} :
    deriveUnionMembers base decls = .ok members ↔
      decls = [] ∧ members = base ∨
      decls ≠ [] ∧ members = decls.map Located.value ∧
        List.Forall₂ (fun decl b => decl.value.derivesFrom b = true) decls base := by
  cases decls with
  | nil =>
      rw [deriveUnionMembers, Except.ok.injEq]
      constructor
      · rintro rfl
        exact .inl ⟨rfl, rfl⟩
      · rintro (⟨-, rfl⟩ | ⟨hne, -⟩)
        · rfl
        · exact absurd rfl hne
  | cons decl decls =>
      rw [deriveUnionMembers]
      split
      next hlen =>
        have hnot : ¬ List.Forall₂ (fun (decl : Located TypeDef) b =>
            decl.value.derivesFrom b = true) (decl :: decls) base :=
          fun h => hlen h.length_eq
        simp [hnot]
      next hlen =>
        rw [not_not] at hlen
        simp only [bind_eq_ok, pure_eq_ok, checkUnionMembers_eq_ok hlen, exists_const, reduceCtorEq,
          false_and, ne_eq, not_false_eq_true, true_and, false_or]
        rw [and_comm, eq_comm]

/-! ### Types without a base -/

/-- The decimals of a scale, as one interval. -/
lemma fullDecimalRange_eq_ok {digits : ℕ} {ranges : List Constraint} :
    Derivation.fullDecimalRange digits = .ok ranges ↔
      ∃ low high, Decimal.least digits = .ok low ∧ Decimal.greatest digits = .ok high ∧
        ranges = [.make .range ⟨.decimal low, .decimal high⟩ .none] := by
  simp only [Derivation.fullDecimalRange, bind_eq_ok, pure_eq_ok]
  constructor
  · rintro ⟨low, hlow, high, hhigh, rfl⟩
    exact ⟨low, high, hlow, hhigh, rfl⟩
  · rintro ⟨low, high, hlow, hhigh, rfl⟩
    exact ⟨low, hlow, high, hhigh, rfl⟩

/-- Without a base, fraction digits are taken once. -/
lemma applyFractionDigits_start {options : DerivationOptions} {first : Located ℕ}
    {rest : List (Located ℕ)} {acc : Accumulator}
    (h : applyFractionDigits (.start .none options) (first :: rest) = .ok acc) :
    rest = [] ∧ acc = { Accumulator.start .none options with fractionDigits := some first.value } := by
  rw [applyFractionDigits, foldLocated_cons_eq_ok] at h
  obtain ⟨acc₁, hfirst, hrest⟩ := h
  have hacc₁ : acc₁ =
      { Accumulator.start .none options with fractionDigits := some first.value } := by
    simp only [Accumulator.setFractionDigits, Accumulator.start, Restrictions.none] at hfirst
    split at hfirst
    next => simp at hfirst
    next => exact (Except.ok.inj hfirst).symm
  subst hacc₁
  cases rest with
  | nil => exact ⟨rfl, (Except.ok.inj hrest).symm⟩
  | cons second rest =>
      obtain ⟨acc₂, hsecond, -⟩ := foldLocated_cons_eq_ok.mp hrest
      simp only [Accumulator.setFractionDigits, Accumulator.start, Restrictions.none] at hsecond
      split at hsecond <;> simp at hsecond

/-- A decimal root declares its digits once, and narrows the decimals of this
scale. -/
lemma rootDecimalFacets_eq_ok {d : Derivation} {facets : Facets}
    (h : d.rootDecimalFacets = .ok facets) :
    ∃ decl full ranges, d.declared Declaration.fractionDigits? = [decl] ∧
      facets = .decimal64 decl.value ranges ∧
      Derivation.fullDecimalRange decl.value = .ok full ∧
      Narrowed .range (Derivation.readDecimal decl.value) full (d.declared Declaration.range?)
        ranges := by
  rw [Derivation.rootDecimalFacets] at h
  split at h
  next => simp at h
  next first rest hdecls =>
    rw [bind_eq_ok] at h
    obtain ⟨acc, hacc, h⟩ := h
    rw [hdecls] at hacc
    obtain ⟨rfl, rfl⟩ := applyFractionDigits_start hacc
    dsimp only at h
    split at h
    next => simp at h
    next full hfull =>
      obtain ⟨ranges, rfl, hnarrowed⟩ := decimalFacets_eq_ok h
      exact ⟨first, full, ranges, hdecls, rfl, hfull, hnarrowed⟩

/-- What the statements of a built-in type that needs an argument make. -/
inductive RootStep (d : Derivation) : RootKind → Body TypeDef → Prop where
  | bits {members : List Member}
      (h : rootMembers .bit d.location (d.declared Declaration.bit?) = .ok members) :
      RootStep d .bits (.simple (.bits members))
  | decimal64 {decl : Located ℕ} {full ranges : List Constraint}
      (hdigits : d.declared Declaration.fractionDigits? = [decl])
      (hfull : Derivation.fullDecimalRange decl.value = .ok full)
      (hranges : Narrowed .range (Derivation.readDecimal decl.value) full
        (d.declared Declaration.range?) ranges) :
      RootStep d .decimal64 (.simple (.decimal64 decl.value ranges))
  | enumeration {members : List Member}
      (h : rootMembers .enum d.location (d.declared Declaration.enum?) = .ok members) :
      RootStep d .enumeration (.simple (.enumeration members))
  | identityref (h : d.declared Declaration.base? ≠ []) :
      RootStep d .identityref
        (.simple (.identityref ((d.declared Declaration.base?).map Located.value)))
  | leafref {path : String} {required : Bool} (hpath : d.targetPath none = .ok path)
      (hrequired : deriveRequireInstance none (d.declared Declaration.requireInstance?)
        = .ok required) :
      RootStep d .leafref (.simple (.leafref path required))
  | union (h : d.declared Declaration.type? ≠ []) :
      RootStep d .union (.union ((d.declared Declaration.type?).map Located.value))

/-- The cases of `RootStep` are all that a step without a base does. -/
theorem rootBody_step {d : Derivation} {kind : RootKind} {body : Body TypeDef}
    (h : d.rootBody kind = .ok body) : RootStep d kind body := by
  cases kind with
  | bits =>
      simp only [Derivation.rootBody, bind_eq_ok, pure_eq_ok] at h
      obtain ⟨members, hmembers, rfl⟩ := h
      exact .bits hmembers
  | decimal64 =>
      simp only [Derivation.rootBody, bind_eq_ok, pure_eq_ok] at h
      obtain ⟨facets, hfacets, rfl⟩ := h
      obtain ⟨decl, full, ranges, hdigits, rfl, hfull, hnarrowed⟩ :=
        rootDecimalFacets_eq_ok hfacets
      exact .decimal64 hdigits hfull hnarrowed
  | enumeration =>
      simp only [Derivation.rootBody, bind_eq_ok, pure_eq_ok] at h
      obtain ⟨members, hmembers, rfl⟩ := h
      exact .enumeration hmembers
  | identityref =>
      rw [Derivation.rootBody] at h
      split at h
      next => simp at h
      next hne =>
        obtain rfl := Except.ok.inj h
        exact .identityref hne
  | leafref =>
      simp only [Derivation.rootBody, bind_eq_ok, pure_eq_ok] at h
      obtain ⟨path, hpath, required, hrequired, rfl⟩ := h
      exact .leafref hpath hrequired
  | union =>
      rw [Derivation.rootBody] at h
      split at h
      next => simp at h
      next hne =>
        obtain rfl := Except.ok.inj h
        exact .union hne

/-! ### The new type -/

lemma TypeDef.builtin?_eq_some {kind : Kind} {t : TypeDef} (h : TypeDef.builtin? kind = some t) :
    ∃ facets, kind.facets? = .ok facets ∧ t = kind.define facets := by
  rw [TypeDef.builtin?] at h
  split at h
  next facets hfacets => exact ⟨facets, hfacets, (Option.some.inj h).symm⟩
  next => simp at h

lemma DerivationStart.base?_type (base : TypeDef) : (type base).base? = some base := rfl

lemma DerivationStart.base?_root (kind : RootKind) : (root kind).base? = none := rfl

/-- A built type has only statements that its kind allows, and is the new body
on top of the base; its default value is one of its values. -/
theorem build_eq_ok {d : Derivation} {mark : ℕ} {engine : Engine} {t : TypeDef} :
    d.build mark engine = .ok t ↔
      d.unsupported? = none ∧ (∃ body, d.body = .ok body ∧
        t = ⟨d.info mark, d.start.base?, body⟩) ∧ d.checkDefault t engine = .ok () := by
  rw [Derivation.build]
  cases d.unsupported? with
  | some s => simp
  | none =>
      simp only [bind_eq_ok, pure_eq_ok, true_and]
      constructor
      · rintro ⟨body, hbody, _, hdefault, rfl⟩
        exact ⟨⟨body, hbody, rfl⟩, hdefault⟩
      · rintro ⟨⟨body, hbody, rfl⟩, hdefault⟩
        exact ⟨body, hbody, (), hdefault, rfl⟩

end YangTypes
