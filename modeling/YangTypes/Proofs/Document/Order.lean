import Mathlib.Tactic
import YangTypes.Proofs.Document.Typedef
import YangTypes.TypeDef.Summary

/-!
The order of typedefs.

Typedefs are derived in the order of the document, and what they refer to has to
come before them. Beyond that their order does not matter.

* `Scope.Settled`: a typedef is settled in a catalogue if it derives to what the
  catalogue holds for it wherever its references mean what they mean there. This
  does not mention an order.
* `Scope.settled_of_deriveAll`: a run settles every typedef in what it gives.
* `Scope.deriveAll_of_settled`: typedefs that are settled in a catalogue can be
  derived in every order in which none refers to a later one, and nothing else
  comes out.
-/

namespace YangTypes

/-! ### Catalogues -/

namespace Catalogue

variable {types : Catalogue} {name : String} {t : TypeDef}

lemma lookup_append_self (h : types.lookup name = none) :
    (types ++ [(name, t)]).lookup name = some t := by
  simp [List.lookup_append, h]

lemma lookup_append_of_ne {other : String} (h : other ≠ name) :
    (types ++ [(name, t)]).lookup other = types.lookup other := by
  have hne : (other == name) = false := beq_eq_false_iff_ne.mpr h
  simp [List.lookup_append, List.lookup_cons, hne]

lemma lookup_eq_none_iff : types.lookup name = none ↔ name ∉ types.map Prod.fst := by
  simp only [List.lookup_eq_none_iff, bne_iff_ne, List.mem_map, not_exists, not_and]
  exact forall₂_congr fun _ _ => ne_comm

end Catalogue

namespace Scope

variable {scope : Scope} {options : DerivationOptions} {types known : Catalogue}
  {decl : TypedefDecl} {decls : List TypedefDecl}

/-! ### What a run keeps and adds -/

/-- A run adds one entry for each typedef, in order. -/
lemma names_of_deriveAll (h : scope.deriveAll options decls = .ok types) :
    types.map Prod.fst = scope.types.map Prod.fst ++ decls.map TypedefDecl.name := by
  induction decls generalizing scope with
  | nil =>
      obtain rfl := Except.ok.inj h
      simp
  | cons decl decls ih =>
      obtain ⟨t, -, hrest⟩ := deriveAll_cons_eq_ok.mp h
      rw [ih hrest]
      simp

/-- No name is given twice. -/
lemma nodup_of_deriveAll (h : scope.deriveAll options decls = .ok types)
    (hscope : (scope.types.map Prod.fst).Nodup) : (types.map Prod.fst).Nodup := by
  induction decls generalizing scope with
  | nil => exact Except.ok.inj h ▸ hscope
  | cons decl decls ih =>
      obtain ⟨t, ht, hrest⟩ := deriveAll_cons_eq_ok.mp h
      refine ih hrest ?_
      have hfree := Catalogue.lookup_eq_none_iff.mp (resolves_of_derive ht).2.1
      rw [List.map_append]
      exact hscope.append (List.nodup_singleton _) (by simpa using hfree)

/-- What a name means before a run it means after it. -/
lemma lookup_of_deriveAll (h : scope.deriveAll options decls = .ok types) {name : String}
    (hname : scope.types.lookup name ≠ none ∨ Kind.ofName? name ≠ none) :
    types.lookup name = scope.types.lookup name := by
  induction decls generalizing scope with
  | nil => rw [Except.ok.inj h]
  | cons decl decls ih =>
      obtain ⟨t, ht, hrest⟩ := deriveAll_cons_eq_ok.mp h
      obtain ⟨hreserved, hfree, -⟩ := resolves_of_derive ht
      have hne : name ≠ decl.name := by
        rintro rfl
        exact hname.elim (· hfree) (· hreserved)
      have hkeep : (scope.types ++ [(decl.name, t)]).lookup name = scope.types.lookup name :=
        Catalogue.lookup_append_of_ne hne
      rw [ih hrest (by simpa only [hkeep] using hname), hkeep]

/-! ### Settled typedefs -/

/-- A typedef is settled in a catalogue if it derives to the type that the
catalogue holds for it, whatever is known, as long as its references mean what
they mean in the catalogue. -/
structure Settled (scope : Scope) (options : DerivationOptions) (types : Catalogue)
    (decl : TypedefDecl) : Prop where
  loopFree : decl.name ∉ decl.references
  derives : ∃ t, types.lookup decl.name = some t ∧
    ∀ known : Catalogue, known.lookup decl.name = none →
      (∀ name ∈ decl.references, known.lookup name = types.lookup name) →
      derive { scope with types := known } options decl = .ok t

/-- A run settles every typedef. -/
lemma settled_of_deriveAll (h : scope.deriveAll options decls = .ok types) :
    ∀ decl ∈ decls, scope.Settled options types decl := by
  induction decls generalizing scope with
  | nil => simp
  | cons decl decls ih =>
      obtain ⟨t, ht, hrest⟩ := deriveAll_cons_eq_ok.mp h
      obtain ⟨-, hfree, hresolves⟩ := resolves_of_derive ht
      intro other hother
      rcases List.mem_cons.mp hother with rfl | hlater
      · refine ⟨not_mem_references_of_derive ht, t, ?_, ?_⟩
        · have hself : (scope.types ++ [(other.name, t)]).lookup other.name = some t :=
            Catalogue.lookup_append_self hfree
          rw [lookup_of_deriveAll hrest (.inl (by simp [hself]))]
          exact hself
        · -- what the references mean at the end of the run they meant at the typedef
          intro known hknown hagree
          have hsame : ∀ name ∈ other.references, known.lookup name = scope.types.lookup name := by
            intro name hname
            rw [hagree name hname, lookup_of_deriveAll h (hresolves name hname)]
          exact (derive_congr (hknown.trans hfree.symm) hsame).trans ht
      · obtain ⟨hloop, hderives⟩ := ih hrest other hlater
        exact ⟨hloop, hderives⟩

/-- Settled typedefs can be derived in every order in which none refers to a
later one; what comes out is the catalogue in which they are settled. -/
lemma deriveAll_of_settled (hsettled : ∀ decl ∈ decls, scope.Settled options types decl)
    (hnodup : (decls.map TypedefDecl.name).Nodup)
    (horder : decls.Pairwise fun earlier later => later.name ∉ earlier.references)
    (known : Catalogue) (hopen : ∀ decl ∈ decls, known.lookup decl.name = none)
    (hknown : ∀ name ∉ decls.map TypedefDecl.name, known.lookup name = types.lookup name) :
    ∃ types', deriveAll { scope with types := known } options decls = .ok types' ∧
      ∀ name, types'.lookup name = types.lookup name := by
  induction decls generalizing known with
  | nil => exact ⟨known, rfl, fun name => hknown name (by simp)⟩
  | cons decl decls ih =>
      obtain ⟨hloop, t, ht, hderives⟩ := hsettled decl List.mem_cons_self
      obtain ⟨hlater, horder'⟩ := List.pairwise_cons.mp horder
      rw [List.map_cons, List.nodup_cons] at hnodup
      have hfree := hopen decl List.mem_cons_self
      -- every reference comes before the typedef or is no typedef at all
      have hreferences : ∀ name ∈ decl.references, known.lookup name = types.lookup name := by
        intro name hname
        refine hknown name fun hmem => ?_
        obtain ⟨other, hother, rfl⟩ := List.mem_map.mp hmem
        rcases List.mem_cons.mp hother with rfl | hother'
        · exact hloop hname
        · exact hlater other hother' hname
      have hstep := hderives known hfree hreferences
      have hopen' : ∀ other ∈ decls, (known ++ [(decl.name, t)]).lookup other.name = none := by
        intro other hother
        have hne : other.name ≠ decl.name := fun heq =>
          hnodup.1 (heq ▸ List.mem_map_of_mem hother)
        rw [Catalogue.lookup_append_of_ne hne]
        exact hopen other (List.mem_cons_of_mem decl hother)
      have hknown' : ∀ name ∉ decls.map TypedefDecl.name,
          (known ++ [(decl.name, t)]).lookup name = types.lookup name := by
        intro name hname
        rcases eq_or_ne name decl.name with rfl | hne
        · rw [Catalogue.lookup_append_self hfree, ht]
        · rw [Catalogue.lookup_append_of_ne hne]
          exact hknown name (by simp [hne, hname])
      obtain ⟨types', hrest, hlookup⟩ :=
        ih (fun other hother => hsettled other (List.mem_cons_of_mem decl hother)) hnodup.2 horder'
          _ hopen' hknown'
      exact ⟨types', deriveAll_cons_eq_ok.mpr ⟨t, hstep, hrest⟩, hlookup⟩

end Scope

/-! ### Documents -/

/-- **The order of typedefs does not matter beyond their references.** If a
document derives, then it derives in every other order of its typedefs in which
none refers to a later one, and no typedef gets another summary or accepts other
texts. -/
theorem derive_order_irrelevant {document : Document} {origin : String}
    {options : DerivationOptions} {types : Catalogue} {decls : List TypedefDecl}
    (h : document.derive origin options = .ok types)
    (hperm : decls.Perm document.typedefs)
    (horder : decls.Pairwise fun earlier later => later.name ∉ earlier.references) :
    ∃ types', Document.derive { document with typedefs := decls } origin options = .ok types' ∧
      (∀ text, Document.parse text = .ok { document with typedefs := decls } →
        deriveDocument text origin options = .ok types') ∧
      types.map Prod.fst = document.typedefs.map TypedefDecl.name ∧
      types'.map Prod.fst = decls.map TypedefDecl.name ∧
      ∀ decl ∈ document.typedefs, ∃ t t',
        types.lookup decl.name = some t ∧ types'.lookup decl.name = some t' ∧
        t'.summary = t.summary ∧ ∀ text, t'.check text = t.check text := by
  obtain ⟨module, hmodule, hrun⟩ := Document.derive_eq_ok.mp h
  have hsettled := Scope.settled_of_deriveAll hrun
  have hnames : types.map Prod.fst = document.typedefs.map TypedefDecl.name :=
    Scope.names_of_deriveAll hrun
  have hnodup : (document.typedefs.map TypedefDecl.name).Nodup :=
    hnames ▸ Scope.nodup_of_deriveAll hrun List.nodup_nil
  have hpermNames := hperm.map TypedefDecl.name
  have hunknown : ∀ name ∉ decls.map TypedefDecl.name,
      List.lookup name ([] : Catalogue) = types.lookup name := by
    intro name hname
    rw [List.lookup_nil, eq_comm, Catalogue.lookup_eq_none_iff, hnames]
    exact fun hmem => hname (hpermNames.mem_iff.mpr hmem)
  obtain ⟨types', hrun', hlookup⟩ := Scope.deriveAll_of_settled
    (fun decl hdecl => hsettled decl (hperm.mem_iff.mp hdecl)) (hpermNames.nodup_iff.mpr hnodup)
    horder [] (fun _ _ => rfl) hunknown
  have hderive : Document.derive { document with typedefs := decls } origin options = .ok types' :=
    Document.derive_eq_ok.mpr ⟨module, hmodule, hrun'⟩
  refine ⟨types', hderive, ?_, hnames, Scope.names_of_deriveAll hrun', ?_⟩
  · intro text htext
    rw [deriveDocument, htext]
    exact hderive
  · intro decl hdecl
    obtain ⟨t, ht, -⟩ := (hsettled decl hdecl).derives
    exact ⟨t, t, ht, (hlookup _).trans ht, rfl, fun _ => rfl⟩

/-- A union and one that refines it, each before or after the decimal type that
both need: the members of the second are compared with those of the first. -/
theorem derive_order_irrelevant_refined_union :
    let percent := { TypedefDecl.bare "percent" "decimal64" with
      fractionDigits := some 2, range := some ⟨"0..100", .none⟩ }
    let small := { TypedefDecl.bare "small" "m:percent" with range := some ⟨"0..10", .none⟩ }
    let either := { TypedefDecl.bare "either" "union" with members := ["int8", "percent"] }
    let refined := { TypedefDecl.bare "refined" "either" with members := ["int8", "m:small"] }
    let document : Document := ⟨⟨"m", "urn:m", none⟩, [percent, small, either, refined]⟩
    let decls := [percent, either, small, refined]
    ∃ types types', document.derive "doc.json" ⟨false⟩ = .ok types ∧
      decls.Perm document.typedefs ∧
      (decls.Pairwise fun earlier later => later.name ∉ earlier.references) ∧
      Document.derive { document with typedefs := decls } "doc.json" ⟨false⟩ = .ok types' ∧
      ∀ decl ∈ document.typedefs, ∃ t t',
        types.lookup decl.name = some t ∧ types'.lookup decl.name = some t' ∧
        t'.summary = t.summary ∧ ∀ text, t'.check text = t.check text := by
  intro percent small either refined document decls
  have hok : (document.derive "doc.json" ⟨false⟩).toOption.isSome = true := by decide +kernel
  obtain ⟨types, htypes⟩ := Option.isSome_iff_exists.mp hok
  have h := toOption_eq_some.mp htypes
  have hperm : decls.Perm document.typedefs := .cons _ (.swap _ _ _)
  have horder : decls.Pairwise fun earlier later => later.name ∉ earlier.references := by
    decide +kernel
  obtain ⟨types', hderive, -, -, -, hsame⟩ := derive_order_irrelevant h hperm horder
  exact ⟨types, types', h, hperm, horder, hderive, hsame⟩

end YangTypes
