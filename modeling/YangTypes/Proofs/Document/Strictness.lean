import Mathlib.Tactic
import YangTypes.Proofs.Derivation.Options
import YangTypes.Proofs.Document.Typedef

/-!
Strict and lenient derivation of a document.

The two runs go through the same typedefs with the same catalogue until the
first typedef that declares other fraction digits than the decimal type it
derives from.

* `TypedefDecl.Redefines`: what such a typedef is.
* `Scope.derive_strict_eq`, `Scope.derive_strict_of_redefines`: one typedef under
  both options.
* `StrictRun`: how the outcomes of two runs are related, given the places at which
  digits are redefined. Either there is none and the outcomes are the same, or
  there is a first one.
* `Scope.runsStrictly`: this is how runs over a list of typedefs are related, by
  induction over the list. Documents and their texts follow.
-/

namespace YangTypes

/-- A typedef derives from a type of the catalogue that has fraction digits, and
declares other ones. -/
def TypedefDecl.Redefines (types : Catalogue) (decl : TypedefDecl) (base declared : ℕ) : Prop :=
  ∃ t, types.lookup (Text.afterLast ':' decl.type) = some t ∧ t.fractionDigits? = some base ∧
    decl.fractionDigits = some declared ∧ declared ≠ base

/-- The error that strict derivation reports for fraction digits. -/
def DocumentError.redefinedDigits (origin typedef : String) (base declared : ℕ) : DocumentError :=
  .type typedef ⟨origin ++ ":" ++ typedef ++ "/" ++ Keyword.fractionDigits.name,
    .fractionDigitsConflict base declared⟩

/-- How a strict run goes, compared with a lenient one, if digits are redefined at
some places. -/
inductive StrictRun (At : ℕ → TypedefDecl → ℕ → ℕ → Prop) (origin : String)
    (strict lenient : Except DocumentError Catalogue) : Prop where
  /-- There is no such place, and both runs have the same outcome. -/
  | same (nowhere : ∀ i decl base declared, ¬ At i decl base declared) (runs : strict = lenient)
  /-- There is a first place, and the strict run fails there, if not for a reason for
  which the lenient run fails too. -/
  | fails {i : ℕ} {decl : TypedefDecl} {base declared : ℕ} {e : DocumentError}
      (redefines : At i decl base declared)
      (first : ∀ j < i, ∀ decl' base' declared', ¬ At j decl' base' declared')
      (fails : strict = .error e)
      (cause : lenient = .error e ∨ e = .redefinedDigits origin decl.name base declared)

/-- No built-in type has fraction digits. -/
lemma DerivationStart.fractionDigits?_ofKind {kind : Kind} {t : TypeDef}
    (h : ofKind kind = .type t) : t.fractionDigits? = none := by
  rw [ofKind] at h
  split at h
  next facets hfacets =>
    obtain rfl := type.inj h
    cases kind <;> cases hfacets <;> rfl
  next => simp at h

namespace Scope

variable {scope : Scope} {options : DerivationOptions} {decl : TypedefDecl} {base declared : ℕ}

/-! ### One typedef -/

/-- The step of a typedef is the same under all options. -/
lemma derivation_under (scope : Scope) (options options' : DerivationOptions)
    (decl : TypedefDecl) :
    scope.derivation options decl =
      (scope.derivation options' decl).map (Derivation.under options) := by
  rw [derivation, derivation]
  split
  next => rfl
  next =>
    split
    next => rfl
    next =>
      cases (Identifier.parse decl.name).mapError DocumentError.invalidName with
      | error e => rfl
      | ok name =>
          cases scope.lookup decl.name decl.type with
          | error e => rfl
          | ok start => cases scope.declarations decl <;> rfl

/-- The fraction digits of the step are those of the typedef. -/
lemma select_fractionDigits {declarations : List Declaration}
    (h : scope.declarations decl = .ok declarations) :
    Statement.select Declaration.fractionDigits? (declarations.map (scope.statement decl.name)) =
      decl.fractionDigits.toList.map fun digits =>
        ⟨digits, scope.origin ++ ":" ++ decl.name ++ "/" ++ Keyword.fractionDigits.name⟩ := by
  simp only [Scope.declarations, bind_eq_ok, pure_eq_ok] at h
  obtain ⟨range, -, length, -, bases, -, members, -, rfl⟩ := h
  simp [Statement.select, List.filterMap_append, List.filterMap_map, Function.comp_def, statement,
    Declaration.fractionDigits?, Declaration.keyword]

/-- A base with fraction digits is a typedef: no built-in type has some. -/
lemma lookup_of_fractionDigits {typedef name : String} {t : TypeDef}
    (h : scope.lookup typedef name = .ok (.type t)) (hdigits : t.fractionDigits? = some base) :
    scope.types.lookup (Text.afterLast ':' name) = some t := by
  rw [lookup] at h
  split at h
  next t' ht' =>
    obtain rfl := DerivationStart.type.inj (Except.ok.inj h)
    exact ht'
  next =>
    split at h
    next kind _ => simp [DerivationStart.fractionDigits?_ofKind (Except.ok.inj h)] at hdigits
    next => simp at h

/-- A typedef that redefines no digits gives a step whose digits agree. -/
lemma digitsAgree_of_derivation {d : Derivation}
    (hd : scope.derivation options decl = .ok d)
    (h : ∀ base declared, ¬ decl.Redefines scope.types base declared) : d.DigitsAgree := by
  obtain ⟨-, -, name, -, start, hstart, declarations, hdeclarations, rfl⟩ := derivation_eq_ok.mp hd
  rintro t digits rfl hdigits located hlocated
  change located ∈ Statement.select _ _ at hlocated
  rw [select_fractionDigits hdeclarations] at hlocated
  obtain ⟨declared, hdeclared, rfl⟩ := List.mem_map.mp hlocated
  by_contra hne
  exact h digits declared
    ⟨t, lookup_of_fractionDigits hstart hdigits, hdigits, Option.mem_toList.mp hdeclared, hne⟩

/-- A typedef that redefines digits gives a step that declares them once. -/
lemma derivation_of_redefines {d : Derivation} (hd : scope.derivation options decl = .ok d)
    (h : decl.Redefines scope.types base declared) :
    ∃ t, d.start = .type t ∧ t.fractionDigits? = some base ∧
      d.declared Declaration.fractionDigits? =
        [⟨declared, scope.origin ++ ":" ++ decl.name ++ "/" ++ Keyword.fractionDigits.name⟩] := by
  obtain ⟨t, ht, hdigits, hdeclared, -⟩ := h
  obtain ⟨-, -, name, -, start, hstart, declarations, hdeclarations, rfl⟩ := derivation_eq_ok.mp hd
  refine ⟨t, ?_, hdigits, ?_⟩
  · rw [lookup, ht] at hstart
    exact (Except.ok.inj hstart).symm
  · exact (select_fractionDigits hdeclarations).trans (by rw [hdeclared]; rfl)

/-- A typedef that redefines no digits is the same under all options. -/
lemma derive_strict_eq (h : ∀ base declared, ¬ decl.Redefines scope.types base declared) :
    scope.derive ⟨true⟩ decl = scope.derive ⟨false⟩ decl := by
  rw [derive_eq, derive_eq, scope.derivation_under ⟨true⟩ ⟨false⟩]
  cases hd : scope.derivation ⟨false⟩ decl with
  | error e => rfl
  | ok d =>
      have hagree := digitsAgree_of_derivation hd h
      exact congrArg (Except.mapError _) (Derivation.build_under_of_digitsAgree hagree 0)

/-- **A typedef that redefines digits cannot be derived under strict options**:
what is wrong with it under all options is reported, if that is found first, or
else the digits are. -/
lemma derive_strict_of_redefines (h : decl.Redefines scope.types base declared) :
    ∃ e, scope.derive ⟨true⟩ decl = .error e ∧
      (scope.derive ⟨false⟩ decl = .error e ∨
        e = .redefinedDigits scope.origin decl.name base declared) := by
  rw [derive_eq, derive_eq, scope.derivation_under ⟨true⟩ ⟨false⟩]
  cases hd : scope.derivation ⟨false⟩ decl with
  | error e => exact ⟨e, rfl, .inl rfl⟩
  | ok d =>
      change ∃ e, ((d.under ⟨true⟩).build 0).mapError _ = .error e ∧
        ((d.build 0).mapError _ = .error e ∨ _)
      obtain ⟨t, hstart, hdigits, hdeclared⟩ := derivation_of_redefines hd h
      obtain ⟨-, -, -, -, hne⟩ := h
      cases hunsupported : d.unsupported? with
      | some s =>
          rw [Derivation.build_under_of_unsupported hunsupported, Derivation.build, hunsupported]
          exact ⟨_, rfl, .inl rfl⟩
      | none =>
          rw [Derivation.build_strict_of_conflict [] [] hunsupported hstart hdigits hdeclared
            (List.forall_mem_nil _) hne]
          exact ⟨_, rfl, .inr rfl⟩

/-! ### Runs -/

variable {decls : List TypedefDecl} {i : ℕ}

/-- The typedef at a place of a list redefines digits: those before it can be
derived, and it redefines the digits of one of them. -/
def RedefinesAt (scope : Scope) (decls : List TypedefDecl) (i : ℕ) (decl : TypedefDecl)
    (base declared : ℕ) : Prop :=
  decls[i]? = some decl ∧ ∃ types, scope.deriveAll ⟨false⟩ (decls.take i) = .ok types ∧
    decl.Redefines types base declared

lemma redefinesAt_zero {first : TypedefDecl} :
    scope.RedefinesAt (first :: decls) 0 decl base declared ↔
      first = decl ∧ first.Redefines scope.types base declared := by
  simp only [RedefinesAt, List.getElem?_cons_zero, Option.some.injEq, List.take_zero]
  constructor
  · rintro ⟨rfl, types, htypes, hredefines⟩
    exact ⟨rfl, Except.ok.inj htypes ▸ hredefines⟩
  · rintro ⟨rfl, hredefines⟩
    exact ⟨rfl, scope.types, rfl, hredefines⟩

lemma redefinesAt_succ {first : TypedefDecl} :
    scope.RedefinesAt (first :: decls) (i + 1) decl base declared ↔
      ∃ t, scope.derive ⟨false⟩ first = .ok t ∧
        RedefinesAt { scope with types := scope.types ++ [(first.name, t)] } decls i decl base
          declared := by
  simp only [RedefinesAt, List.getElem?_cons_succ, List.take_succ_cons, deriveAll_cons_eq_ok]
  constructor
  · rintro ⟨hdecl, types, ⟨t, ht, hrest⟩, hredefines⟩
    exact ⟨t, ht, hdecl, types, hrest, hredefines⟩
  · rintro ⟨t, ht, hdecl, types, hrest, hredefines⟩
    exact ⟨hdecl, types, ⟨t, ht, hrest⟩, hredefines⟩

/-- How the two runs over a list of typedefs are related. -/
def RunsStrictly (scope : Scope) (decls : List TypedefDecl) : Prop :=
  StrictRun (scope.RedefinesAt decls) scope.origin (scope.deriveAll ⟨true⟩ decls)
    (scope.deriveAll ⟨false⟩ decls)

section

variable {first : TypedefDecl}

/-- A typedef that redefines digits ends the strict run. -/
lemma RunsStrictly.of_redefines (h : first.Redefines scope.types base declared) :
    scope.RunsStrictly (first :: decls) := by
  obtain ⟨e, hstrict, hcause⟩ := derive_strict_of_redefines h
  exact .fails (redefinesAt_zero.mpr ⟨rfl, h⟩) (fun j hj => absurd hj (Nat.not_lt_zero j))
    (deriveAll_cons_of_error hstrict) (hcause.imp_left deriveAll_cons_of_error)

lemma not_redefinesAt_zero (h : ∀ base declared, ¬ first.Redefines scope.types base declared) :
    ∀ decl base declared, ¬ scope.RedefinesAt (first :: decls) 0 decl base declared :=
  fun _ base declared hat => h base declared (redefinesAt_zero.mp hat).2

/-- Both runs end at a typedef that cannot be derived under any options. -/
lemma RunsStrictly.of_error {e : DocumentError}
    (h : ∀ base declared, ¬ first.Redefines scope.types base declared)
    (herror : scope.derive ⟨false⟩ first = .error e) : scope.RunsStrictly (first :: decls) := by
  refine .same (fun i decl base declared hat => ?_) ?_
  · cases i with
    | zero => exact not_redefinesAt_zero h decl base declared hat
    | succ i =>
        obtain ⟨t, ht, -⟩ := redefinesAt_succ.mp hat
        simp [herror] at ht
  · rw [deriveAll_cons_of_error herror,
      deriveAll_cons_of_error ((derive_strict_eq h).trans herror)]

/-- A typedef that both runs derive is added to both catalogues. -/
lemma RunsStrictly.cons {t : TypeDef}
    (h : ∀ base declared, ¬ first.Redefines scope.types base declared)
    (ht : scope.derive ⟨false⟩ first = .ok t)
    (hrest : RunsStrictly { scope with types := scope.types ++ [(first.name, t)] } decls) :
    scope.RunsStrictly (first :: decls) := by
  have hsucc : ∀ i decl base declared,
      scope.RedefinesAt (first :: decls) (i + 1) decl base declared ↔
        RedefinesAt { scope with types := scope.types ++ [(first.name, t)] } decls i decl base
          declared := by
    simp [redefinesAt_succ, ht]
  rw [RunsStrictly, deriveAll_cons_of_ok ht, deriveAll_cons_of_ok ((derive_strict_eq h).trans ht)]
  cases hrest with
  | same nowhere runs =>
      refine .same (fun i decl base declared hat => ?_) runs
      cases i with
      | zero => exact not_redefinesAt_zero h decl base declared hat
      | succ i => exact nowhere i decl base declared ((hsucc i decl base declared).mp hat)
  | @fails i decl base declared e redefines before fails cause =>
      refine .fails ((hsucc i decl base declared).mpr redefines) ?_ fails cause
      intro j hj decl' base' declared' hat
      cases j with
      | zero => exact not_redefinesAt_zero h decl' base' declared' hat
      | succ j =>
          exact before j (Nat.lt_of_succ_lt_succ hj) decl' base' declared'
            ((hsucc j decl' base' declared').mp hat)

end

/-- **Two runs over the same typedefs**, with the catalogues kept in step. -/
theorem runsStrictly (scope : Scope) (decls : List TypedefDecl) : scope.RunsStrictly decls := by
  induction decls generalizing scope with
  | nil => exact .same (by simp [RedefinesAt]) rfl
  | cons first decls ih =>
      by_cases hfirst : ∃ base declared, first.Redefines scope.types base declared
      · obtain ⟨base, declared, hfirst⟩ := hfirst
        exact .of_redefines hfirst
      · simp only [not_exists] at hfirst
        cases ht : scope.derive ⟨false⟩ first with
        | error e => exact .of_error hfirst ht
        | ok t => exact .cons hfirst ht (ih _)

end Scope

/-! ### Documents -/

/-- The typedef at a place of a document redefines digits: those before it can be
derived, and it redefines the digits of one of them. -/
def Document.RedefinesAt (document : Document) (origin : String) (i : ℕ) (decl : TypedefDecl)
    (base declared : ℕ) : Prop :=
  document.typedefs[i]? = some decl ∧
    ∃ types, Document.derive { document with typedefs := document.typedefs.take i } origin
        ⟨false⟩ = .ok types ∧
      decl.Redefines types base declared

/-- The two runs over a document. -/
lemma Document.strictRun (document : Document) (origin : String) :
    StrictRun (document.RedefinesAt origin) origin (document.derive origin ⟨true⟩)
      (document.derive origin ⟨false⟩) := by
  cases hmodule : QualifiedName.create document.module.space document.module.revision
      document.module.name with
  | error e =>
      refine .same (fun i decl base declared hat => ?_) ?_
      · obtain ⟨-, types, htypes, -⟩ := hat
        simp [Document.derive_eq_ok, hmodule] at htypes
      · simp only [Document.derive, hmodule]
        rfl
  | ok module =>
      have hat : document.RedefinesAt origin =
          Scope.RedefinesAt ⟨origin, module, []⟩ document.typedefs := by
        funext i decl base declared
        simp [Document.RedefinesAt, Document.derive_eq_ok, hmodule, Scope.RedefinesAt]
      have hrun : ∀ options, document.derive origin options =
          Scope.deriveAll ⟨origin, module, []⟩ options document.typedefs := by
        intro options
        rw [Document.derive, hmodule]
        rfl
      rw [hat, hrun, hrun]
      exact Scope.runsStrictly _ _

/-- The two runs over the text of a document. -/
lemma strictRun_deriveDocument (text origin : String) :
    StrictRun
      (fun i decl base declared => ∃ document, Document.parse text = .ok document ∧
        document.RedefinesAt origin i decl base declared)
      origin (deriveDocument text origin ⟨true⟩) (deriveDocument text origin ⟨false⟩) := by
  simp only [deriveDocument]
  cases htext : Document.parse text with
  | error e => exact .same (by simp) rfl
  | ok document =>
      simp only [Except.ok.injEq, exists_eq_left']
      exact document.strictRun origin

/-- A typedef redefines the digits of one type only. -/
lemma Document.RedefinesAt.unique {document : Document} {origin : String} {i : ℕ}
    {decl decl' : TypedefDecl} {base declared base' declared' : ℕ}
    (h : document.RedefinesAt origin i decl base declared)
    (h' : document.RedefinesAt origin i decl' base' declared') :
    decl = decl' ∧ base = base' ∧ declared = declared' := by
  obtain ⟨hdecl, types, htypes, t, ht, hbase, hdeclared, -⟩ := h
  obtain ⟨hdecl', types', htypes', t', ht', hbase', hdeclared', -⟩ := h'
  obtain rfl := Option.some.inj (hdecl.symm.trans hdecl')
  obtain rfl := Except.ok.inj (htypes.symm.trans htypes')
  obtain rfl := Option.some.inj (ht.symm.trans ht')
  exact ⟨rfl, Option.some.inj (hbase.symm.trans hbase'),
    Option.some.inj (hdeclared.symm.trans hdeclared')⟩

/-- **Strict options only ever add conflicts of fraction digits.** What derives
under strict options derives to the same types without them. A document that
derives without them fails under them exactly if some typedef redefines the
fraction digits of its base, and the error is that of the first such typedef.
Where there is none, both runs have the same outcome. -/
theorem strict_only_adds_digit_conflicts (text origin : String) :
    let strict := deriveDocument text origin ⟨true⟩
    let lenient := deriveDocument text origin ⟨false⟩
    (∀ types, strict = .ok types → lenient = .ok types) ∧
    (∀ types e, lenient = .ok types →
      (strict = .error e ↔ ∃ document i decl base declared, Document.parse text = .ok document ∧
        document.RedefinesAt origin i decl base declared ∧
        (∀ j < i, ∀ decl' base' declared',
          ¬ document.RedefinesAt origin j decl' base' declared') ∧
        e = .redefinedDigits origin decl.name base declared)) ∧
    ((∀ document i decl base declared, Document.parse text = .ok document →
      ¬ document.RedefinesAt origin i decl base declared) → strict = lenient) := by
  intro strict lenient
  have hrun := strictRun_deriveDocument text origin
  refine ⟨fun types hstrict => ?_, fun types e hlenient => ?_, fun hnowhere => ?_⟩
  · cases hrun with
    | same _ runs => exact runs.symm.trans hstrict
    | fails _ _ hfails _ => exact absurd (hfails.symm.trans hstrict) nofun
  · cases hrun with
    | same nowhere runs =>
        refine ⟨fun herror => ?_, ?_⟩
        · exact absurd (herror.symm.trans (runs.trans hlenient)) nofun
        · rintro ⟨document, i, decl, base, declared, htext, hat, -⟩
          exact absurd ⟨document, htext, hat⟩ (nowhere i decl base declared)
    | @fails i decl base declared e' redefines first hfails cause =>
        obtain ⟨document, htext, hat⟩ := redefines
        have he' : e' = .redefinedDigits origin decl.name base declared :=
          cause.resolve_left fun herror => absurd (herror.symm.trans hlenient) nofun
        have hfirst : ∀ j < i, ∀ decl' base' declared',
            ¬ document.RedefinesAt origin j decl' base' declared' :=
          fun j hj decl' base' declared' hat' =>
            first j hj decl' base' declared' ⟨document, htext, hat'⟩
        constructor
        · intro herror
          obtain rfl := Except.error.inj (hfails.symm.trans herror)
          exact ⟨document, i, decl, base, declared, htext, hat, hfirst, he'⟩
        · -- there is only one first place, so this is the one where the run fails
          rintro ⟨document', i', decl', base', declared', htext', hat', hfirst', rfl⟩
          obtain rfl := Except.ok.inj (htext.symm.trans htext')
          obtain rfl : i = i' := by
            rcases lt_trichotomy i i' with hlt | heq | hgt
            · exact absurd hat (hfirst' i hlt decl base declared)
            · exact heq
            · exact absurd hat' (hfirst i' hgt decl' base' declared')
          obtain ⟨rfl, rfl, rfl⟩ := hat.unique hat'
          exact hfails.trans (congrArg Except.error he')
  · cases hrun with
    | same _ runs => exact runs
    | fails redefines _ _ _ =>
        obtain ⟨document, htext, hat⟩ := redefines
        exact absurd hat (hnowhere document _ _ _ _ htext)

/-- A decimal type and one derived from it that declares other digits. -/
theorem strict_only_adds_digit_conflicts_redefined :
    let text := "\x7b\"module\":\x7b\"name\":\"m\",\"namespace\":\"u\"\x7d,\"typedefs\":[" ++
      "\x7b\"name\":\"a\",\"type\":\"decimal64\",\"fraction-digits\":2\x7d," ++
      "\x7b\"name\":\"c\",\"type\":\"x:a\",\"fraction-digits\":3\x7d]\x7d"
    ∃ types, deriveDocument text "doc.json" ⟨false⟩ = .ok types ∧
      deriveDocument text "doc.json" ⟨true⟩ = .error (.redefinedDigits "doc.json" "c" 2 3) ∧
      ∃ document i decl base declared, Document.parse text = .ok document ∧
        document.RedefinesAt "doc.json" i decl base declared ∧
        (∀ j < i, ∀ decl' base' declared',
          ¬ document.RedefinesAt "doc.json" j decl' base' declared') ∧
        DocumentError.redefinedDigits "doc.json" "c" 2 3 =
          .redefinedDigits "doc.json" decl.name base declared := by
  intro text
  have hok : (deriveDocument text "doc.json" ⟨false⟩).toOption.isSome = true := by decide +kernel
  have hstrict : deriveDocument text "doc.json" ⟨true⟩ =
      .error (.redefinedDigits "doc.json" "c" 2 3) := by decide +kernel
  obtain ⟨types, htypes⟩ := Option.isSome_iff_exists.mp hok
  have hlenient := toOption_eq_some.mp htypes
  exact ⟨types, hlenient, hstrict,
    ((strict_only_adds_digit_conflicts text "doc.json").2.1 types _ hlenient).mp hstrict⟩

end YangTypes
