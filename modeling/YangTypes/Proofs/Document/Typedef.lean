import Mathlib.Tactic
import YangTypes.Document.Derive
import YangTypes.Proofs.Derivation.Step

/-!
Deriving one typedef, and a list of them.

A typedef sees the typedefs before it only through the names that it refers to,
and through its own name, which must not be taken.

* `TypedefDecl.references`: the names that a typedef refers to.
* `Scope.derivation`: the step of derivation that a typedef stands for. What the
  typedef is in the end is what this step builds (`Scope.derive_eq`).
* `Scope.derive_congr`: catalogues that agree on these names give the same
  result, be it a type or an error.
* `Scope.resolves_of_derive`: a typedef that can be derived refers to types that
  are known or built in, and its own name is neither.
* `Scope.deriveAll_cons_eq_ok` and `Document.derive_eq_ok`: what a run over a list
  of typedefs, and over a document, consists of.
-/

namespace YangTypes

/-- The names that a typedef refers to, without their prefixes: its base and its
members. -/
def TypedefDecl.references (decl : TypedefDecl) : List String :=
  (decl.type :: decl.members).map (Text.afterLast ':')

/-- A typedef that declares nothing about its type. -/
def TypedefDecl.bare (name type : String) : TypedefDecl :=
  ⟨name, type, none, none, [], none, [], none, none, [], [], [], none, none, none, none, none⟩

namespace Scope

variable {scope : Scope} {types types' : Catalogue} {options : DerivationOptions}
  {decl : TypedefDecl} {t : TypeDef}

/-! ### The step of a typedef -/

/-- The step of derivation that a typedef stands for. -/
def derivation (scope : Scope) (options : DerivationOptions) (decl : TypedefDecl) :
    Except DocumentError Derivation :=
  if (Kind.ofName? decl.name).isSome then .error (.reservedName decl.name)
  else if (scope.types.lookup decl.name).isSome then .error (.duplicateTypedef decl.name)
  else do
    let name ← (Identifier.parse decl.name).mapError .invalidName
    let start ← scope.lookup decl.name decl.type
    let declarations ← scope.declarations decl
    return ⟨start, declarations.map (scope.statement decl.name),
      SchemaPath.root.push (scope.module.bind name), options⟩

/-- A typedef is what its step builds. -/
lemma derive_eq (scope : Scope) (options : DerivationOptions) (decl : TypedefDecl) :
    scope.derive options decl =
      scope.derivation options decl >>= fun d => (d.build 0).mapError (.type decl.name) := by
  rw [derive, derivation]
  split
  next => rfl
  next =>
    split
    next => rfl
    next => simp only [bind_assoc, pure_bind]

/-- A typedef has a step if its own name is free and an identifier, and if its
base and what it declares can be resolved. -/
lemma derivation_eq_ok {d : Derivation} :
    scope.derivation options decl = .ok d ↔
      Kind.ofName? decl.name = none ∧ scope.types.lookup decl.name = none ∧
      ∃ name, Identifier.parse decl.name = .ok name ∧
      ∃ start, scope.lookup decl.name decl.type = .ok start ∧
      ∃ declarations, scope.declarations decl = .ok declarations ∧
        ⟨start, declarations.map (scope.statement decl.name),
          SchemaPath.root.push (scope.module.bind name), options⟩ = d := by
  rw [derivation]
  split
  next hreserved => simp [Option.isSome_iff_ne_none.mp hreserved]
  next hreserved =>
    split
    next htaken => simp [Option.isSome_iff_ne_none.mp htaken]
    next hfree =>
      simp only [bind_eq_ok, mapError_eq_ok, pure_eq_ok, Option.not_isSome_iff_eq_none.mp hreserved,
        Option.not_isSome_iff_eq_none.mp hfree, true_and]

/-! ### What a typedef depends on -/

lemma lookup_congr {typedef name : String}
    (h : types.lookup (Text.afterLast ':' name) = types'.lookup (Text.afterLast ':' name)) :
    lookup { scope with types := types } typedef name =
      lookup { scope with types := types' } typedef name := by
  simp only [lookup, h]

lemma member_congr {typedef name : String}
    (h : types.lookup (Text.afterLast ':' name) = types'.lookup (Text.afterLast ':' name)) :
    member { scope with types := types } typedef name =
      member { scope with types := types' } typedef name := by
  simp only [member, lookup_congr h]

/-- What a typedef declares depends on the typedefs before it through the names
of its members only. -/
lemma declarations_congr
    (h : ∀ name ∈ decl.references, types.lookup name = types'.lookup name) :
    declarations { scope with types := types } decl =
      declarations { scope with types := types' } decl := by
  have hmembers : decl.members.mapM (member { scope with types := types } decl.name) =
      decl.members.mapM (member { scope with types := types' } decl.name) := by
    refine mapM_congr fun name hname => member_congr (h _ ?_)
    exact List.mem_map_of_mem (List.mem_cons_of_mem _ hname)
  simp only [declarations, hmembers]
  rfl

/-- **A typedef sees the typedefs before it through its own name and its
references only.** -/
lemma derive_congr (hown : types.lookup decl.name = types'.lookup decl.name)
    (h : ∀ name ∈ decl.references, types.lookup name = types'.lookup name) :
    derive { scope with types := types } options decl =
      derive { scope with types := types' } options decl := by
  have hbase : lookup { scope with types := types } decl.name decl.type =
      lookup { scope with types := types' } decl.name decl.type :=
    lookup_congr (h _ List.mem_cons_self)
  simp only [derive, hown, hbase, declarations_congr h]
  rfl

/-- A name that is found is known or built in. -/
lemma resolves_of_lookup {typedef name : String} {start : DerivationStart}
    (h : scope.lookup typedef name = .ok start) :
    scope.types.lookup (Text.afterLast ':' name) ≠ none ∨
      Kind.ofName? (Text.afterLast ':' name) ≠ none := by
  by_contra hnone
  rw [not_or, not_not, not_not] at hnone
  simp [lookup, hnone.1, hnone.2] at h

lemma exists_lookup_of_member {typedef name : String} {t : TypeDef}
    (h : scope.member typedef name = .ok t) : ∃ start, scope.lookup typedef name = .ok start := by
  rw [member, bind_eq_ok] at h
  obtain ⟨start, hstart, -⟩ := h
  exact ⟨start, hstart⟩

/-- **A typedef that can be derived has a free name, and refers to types that
are known or built in.** -/
lemma resolves_of_derive (h : scope.derive options decl = .ok t) :
    Kind.ofName? decl.name = none ∧ scope.types.lookup decl.name = none ∧
      ∀ name ∈ decl.references, scope.types.lookup name ≠ none ∨ Kind.ofName? name ≠ none := by
  rw [derive_eq, bind_eq_ok] at h
  obtain ⟨d, hd, -⟩ := h
  obtain ⟨hreserved, hfree, _, -, start, hstart, declarations, hdeclarations, -⟩ :=
    derivation_eq_ok.mp hd
  refine ⟨hreserved, hfree, ?_⟩
  intro name hname
  obtain ⟨written, hwritten, rfl⟩ := List.mem_map.mp hname
  rcases List.mem_cons.mp hwritten with rfl | hmember
  · exact resolves_of_lookup hstart
  · simp only [Scope.declarations, bind_eq_ok] at hdeclarations
    obtain ⟨_, -, _, -, _, -, members, hmembers, -⟩ := hdeclarations
    obtain ⟨t, -, ht⟩ := exists_right_of_forall₂ (mapM_eq_ok.mp hmembers) hmember
    obtain ⟨start, hstart⟩ := exists_lookup_of_member ht
    exact resolves_of_lookup hstart

/-- A typedef that can be derived does not refer to itself. -/
lemma not_mem_references_of_derive (h : scope.derive options decl = .ok t) :
    decl.name ∉ decl.references := by
  obtain ⟨hreserved, hfree, hresolves⟩ := resolves_of_derive h
  intro hself
  exact (hresolves _ hself).elim (· hfree) (· hreserved)

/-! ### Lists of typedefs -/

variable {decls : List TypedefDecl}

lemma deriveAll_cons_of_error {e : DocumentError} (h : scope.derive options decl = .error e) :
    scope.deriveAll options (decl :: decls) = .error e := by
  rw [deriveAll, h]
  rfl

lemma deriveAll_cons_of_ok (h : scope.derive options decl = .ok t) :
    scope.deriveAll options (decl :: decls) =
      deriveAll { scope with types := scope.types ++ [(decl.name, t)] } options decls := by
  rw [deriveAll, h]
  rfl

lemma deriveAll_cons_eq_ok :
    scope.deriveAll options (decl :: decls) = .ok types ↔
      ∃ t, scope.derive options decl = .ok t ∧
        deriveAll { scope with types := scope.types ++ [(decl.name, t)] } options decls =
          .ok types := by
  rw [deriveAll, bind_eq_ok]

end Scope

/-- A document derives if its module has a name and its typedefs derive. -/
lemma Document.derive_eq_ok {document : Document} {origin : String} {options : DerivationOptions}
    {types : Catalogue} :
    document.derive origin options = .ok types ↔
      ∃ module, QualifiedName.create document.module.space document.module.revision
          document.module.name = .ok module ∧
        Scope.deriveAll ⟨origin, module, []⟩ options document.typedefs = .ok types := by
  simp only [Document.derive, bind_eq_ok, mapError_eq_ok]

end YangTypes
