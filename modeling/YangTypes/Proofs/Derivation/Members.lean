import Mathlib.Tactic
import YangTypes.Proofs.Derivation.Lineage

/-!
The members of bits, enumerations and unions along a chain of steps.

* `NamedMembers`: bits or enums that differ in their names and in their numbers,
  each with the number that every ancestor gives to its name. A root makes such
  members (`namedMembers_root`) by comparing each with those before it; a step
  keeps them (`NamedMembers.step`) although it compares names only, since it
  takes the numbers of its base.
* `UnionMembers`: members that derive, place by place, from those of every
  ancestor. A step compares them with those of its base only
  (`UnionMembers.step`); the rest is that deriving is transitive.
-/

namespace YangTypes

/-! ### Bits and enums of a type -/

/-- The built-in type that has members of a kind. -/
def MemberKind.toKind : MemberKind → Kind
  | bit => .bits
  | enum => .enumeration

/-- The bits, or the enums, of a type. -/
def TypeDef.named (t : TypeDef) : MemberKind → List Member
  | .bit => t.bits
  | .enum => t.enums

/-- A declared bit, or a declared enum. -/
def MemberKind.declaration? : MemberKind → Declaration → Option MemberDecl
  | bit => Declaration.bit?
  | enum => Declaration.enum?

lemma TypeDef.named_eq_nil {t : TypeDef} {kind : MemberKind} (h : t.kind ≠ kind.toKind) :
    t.named kind = [] := by
  obtain ⟨info, base, body⟩ := t
  cases body with
  | union members => cases kind <;> rfl
  | simple facets =>
      cases kind <;> cases facets <;>
        simp [named, bits, enums, TypeDef.kind, Facets.kind, MemberKind.toKind] at h ⊢

lemma Derivation.declared_members_eq_nil {d : Derivation} {kind : MemberKind}
    (hsupported : d.unsupported? = none) (h : d.start.kind ≠ kind.toKind) :
    d.declared kind.declaration? = [] := by
  cases kind with
  | bit => exact d.declared_eq_nil hsupported .bit (beq_eq_false_iff_ne.mpr h)
  | enum => exact d.declared_eq_nil hsupported .enum (beq_eq_false_iff_ne.mpr h)

/-- The members of a root are those that its statements number. -/
lemma RootStep.named {d : Derivation} {kind : MemberKind} {rootKind : RootKind}
    {body : Body TypeDef} {info : TypeInfo} {base : Option TypeDef} (h : RootStep d rootKind body)
    (hkind : rootKind.toKind = kind.toKind) :
    rootMembers kind d.location (d.declared kind.declaration?) =
      .ok ((⟨info, base, body⟩ : TypeDef).named kind) := by
  cases h with
  | bits h =>
      cases kind with
      | bit => exact h
      | enum => simp [RootKind.toKind, MemberKind.toKind] at hkind
  | enumeration h =>
      cases kind with
      | bit => simp [RootKind.toKind, MemberKind.toKind] at hkind
      | enum => exact h
  | _ => cases kind <;> simp [RootKind.toKind, MemberKind.toKind] at hkind

section

variable {d : Derivation} {base : TypeDef} {body : Body TypeDef} {info : TypeInfo}

/-- The members of a derived type are selected among those of its base. A type
of another kind has none, and its steps declare none. -/
lemma BodyStep.named {kind : MemberKind} (h : BodyStep d base.body body)
    (hsupported : d.unsupported? = none) (hstart : d.start = .type base) :
    derivedMembers kind (base.named kind) (d.declared kind.declaration?) =
      .ok ((⟨info, some base, body⟩ : TypeDef).named kind) := by
  by_cases hkind : base.kind = kind.toKind
  · obtain ⟨binfo, bbase, bbody⟩ := base
    cases h with
    | simple h =>
        cases h with
        | bits h =>
            cases kind with
            | bit => exact h
            | enum => simp [TypeDef.kind, Facets.kind, MemberKind.toKind] at hkind
        | enumeration h =>
            cases kind with
            | bit => simp [TypeDef.kind, Facets.kind, MemberKind.toKind] at hkind
            | enum => exact h
        | _ => cases kind <;> simp [TypeDef.kind, Facets.kind, MemberKind.toKind] at hkind
    | union h => cases kind <;> simp [TypeDef.kind, MemberKind.toKind] at hkind
  · have hdecls : d.declared kind.declaration? = [] :=
      Derivation.declared_members_eq_nil hsupported (by rw [hstart]; exact hkind)
    rw [TypeDef.named_eq_nil hkind, hdecls, TypeDef.named_eq_nil (h.kind_eq.trans_ne hkind)]
    rfl

/-- The members of a derived union come from those of its base. -/
lemma BodyStep.members (h : BodyStep d base.body body) (hsupported : d.unsupported? = none)
    (hstart : d.start = .type base) :
    deriveUnionMembers base.members (d.declared Declaration.type?) =
      .ok (⟨info, some base, body⟩ : TypeDef).members := by
  obtain ⟨binfo, bbase, bbody⟩ := base
  cases h with
  | simple h =>
      rw [d.declared_eq_nil hsupported .type (by rw [hstart]; cases h <;> rfl)]
      rfl
  | union h => exact h

end

/-! ### Numbers of members -/

/-- No two members share a name or a number. -/
structure Distinct (members : List Member) : Prop where
  names : (members.map Member.name).Nodup
  values : (members.map Member.value).Nodup

lemma Distinct.append {members : List Member} {m : Member} (h : Distinct members)
    (hname : ∀ a ∈ members, a.name ≠ m.name) (hvalue : ∀ a ∈ members, a.value ≠ m.value) :
    Distinct (members ++ [m]) where
  names := by
    rw [List.map_append, List.nodup_append]
    refine ⟨h.names, List.nodup_singleton _, ?_⟩
    simpa using hname
  values := by
    rw [List.map_append, List.nodup_append]
    refine ⟨h.values, List.nodup_singleton _, ?_⟩
    simpa using hvalue

/-- What is asked of a declaration, in the order in which it is asked. -/
lemma numberMember_eq_ok_iff_number {kind : MemberKind} {members : List Member} {decl : MemberDecl}
    {m : Member} : numberMember kind members decl = .ok m ↔
      kind.admitsName decl.name = true ∧ (∀ a ∈ members, a.name ≠ decl.name) ∧
        ∃ v, (decl.value <|> nextValue? kind members) = some v ∧
          (∀ a ∈ members, a.value ≠ v) ∧ m = ⟨decl.name, v, decl.doc⟩ := by
  rw [numberMember]
  by_cases hshaped : kind.admitsName decl.name = true
  · rw [if_neg (not_not.mpr hshaped)]
    by_cases hname : ∀ a ∈ members, a.name ≠ decl.name
    · rw [if_neg (by simpa using hname)]
      cases decl.value <|> nextValue? kind members with
      | none => simp
      | some v =>
          cases hfind : members.find? fun a => a.value == v with
          | none =>
              have hfresh : ∀ a ∈ members, a.value ≠ v := by simpa using hfind
              simp only [hfind, Option.some.injEq, exists_eq_left', Except.ok.injEq, hshaped,
                true_and, and_iff_right hname, and_iff_right hfresh]
              exact eq_comm
          | some other =>
              have hother : other.value = v := by simpa using List.find?_some hfind
              have hused : ¬ ∀ a ∈ members, a.value ≠ v := fun hfresh =>
                hfresh other (List.mem_of_find?_eq_some hfind) hother
              simp [hfind, hused]
    · rw [if_pos (by simpa using hname)]
      simp [hname]
  · rw [if_pos hshaped]
    simp [hshaped]

/-- A new member has the declared name, and shares neither its name nor its
number with those before it. -/
lemma numberMember_eq_ok {kind : MemberKind} {assigned : List Member} {decl : MemberDecl}
    {m : Member} (h : numberMember kind assigned decl = .ok m) :
    m.name = decl.name ∧ (∀ a ∈ assigned, a.name ≠ m.name) ∧
      ∀ a ∈ assigned, a.value ≠ m.value := by
  obtain ⟨-, hname, v, -, hvalue, rfl⟩ := numberMember_eq_ok_iff_number.mp h
  exact ⟨rfl, hname, hvalue⟩

/-- A root has a member for each declaration, in their order, and all differ. -/
lemma rootMembers_eq_ok {kind : MemberKind} {location : Location}
    {decls : List (Located MemberDecl)} {members : List Member}
    (h : rootMembers kind location decls = .ok members) :
    decls ≠ [] ∧ Distinct members ∧
      List.Forall₂ (fun decl m => m.name = decl.value.name) decls members := by
  rw [rootMembers] at h
  split at h
  next => simp at h
  next hne =>
    refine ⟨fun hnil => hne (List.isEmpty_iff.mpr hnil), ?_, ?_⟩
    · have hempty : Distinct [] := ⟨List.nodup_nil, List.nodup_nil⟩
      refine foldLocated_invariant ?_ hempty h
      intro assigned decl _ hdistinct hstep
      obtain ⟨m, hm, rfl⟩ := map_eq_ok.mp hstep
      obtain ⟨-, hname, hvalue⟩ := numberMember_eq_ok hm
      exact hdistinct.append hname hvalue
    · obtain ⟨added, rfl, hadded⟩ :=
        foldLocated_append (fun _ _ _ hm => (numberMember_eq_ok hm).1) h
      exact hadded

/-- Selected members differ in their names. -/
lemma derivedMembers_names_nodup {kind : MemberKind} {base members : List Member}
    {decls : List (Located MemberDecl)} (hbase : (base.map Member.name).Nodup)
    (h : derivedMembers kind base decls = .ok members) : (members.map Member.name).Nodup := by
  rw [derivedMembers] at h
  split at h
  next => exact Except.ok.inj h ▸ hbase
  next =>
    refine foldLocated_invariant (P := fun ms => (ms.map Member.name).Nodup) ?_ List.nodup_nil h
    intro selected decl _ hnodup hstep
    obtain ⟨m, hm, rfl⟩ := map_eq_ok.mp hstep
    have hname : ∀ a ∈ selected, a.name ≠ decl.name := by
      rw [selectMember] at hm
      split at hm
      next => simp at hm
      next hnew => simpa using hnew
    have hselects : Selects base ⟨decl, ""⟩ m := selects_of_selectMember hm
    rw [List.map_append, List.nodup_append]
    refine ⟨hnodup, List.nodup_singleton _, ?_⟩
    simpa [hselects.1] using hname

/-- A step keeps members different: it compares names only, but two members of
one number would come from one member of the base, and have its name. -/
lemma Distinct.derivedMembers {kind : MemberKind} {base members : List Member}
    {decls : List (Located MemberDecl)} (hbase : Distinct base)
    (h : derivedMembers kind base decls = .ok members) : Distinct members := by
  have hnames := derivedMembers_names_nodup hbase.names h
  rcases derivedMembers_eq_ok h with ⟨-, rfl⟩ | ⟨-, hselects⟩
  · exact hbase
  · refine ⟨hnames, ?_⟩
    rw [List.Nodup, List.pairwise_map] at hnames ⊢
    refine hnames.imp_of_mem fun {m m'} hm hm' hne hvalue => hne ?_
    obtain ⟨_, -, -, b, hb, hbname, hbvalue⟩ := exists_left_of_forall₂ hselects hm
    obtain ⟨_, -, -, b', hb', hbname', hbvalue'⟩ := exists_left_of_forall₂ hselects hm'
    obtain rfl : b = b' :=
      List.inj_on_of_nodup_map hbase.values hb hb' (by rw [hbvalue, hvalue, hbvalue'])
    rw [← hbname, hbname']

/-- Members keep the numbers that the base gives to their names. -/
lemma exists_mem_of_derivedMembers {kind : MemberKind} {base members : List Member}
    {decls : List (Located MemberDecl)} (h : derivedMembers kind base decls = .ok members)
    {m : Member} (hm : m ∈ members) : ∃ b ∈ base, b.name = m.name ∧ b.value = m.value := by
  rcases derivedMembers_eq_ok h with ⟨-, rfl⟩ | ⟨-, hselects⟩
  · exact ⟨m, hm, rfl, rfl⟩
  · obtain ⟨_, -, -, hb⟩ := exists_left_of_forall₂ hselects hm
    exact hb

/-! ### Bits and enumerations along a chain -/

/-- There are members; they differ in names and numbers, and have the numbers
that every ancestor gives to their names. -/
structure NamedMembers (kind : MemberKind) (t : TypeDef) : Prop where
  nonempty : t.named kind ≠ []
  distinct : Distinct (t.named kind)
  inherited : ∀ a ∈ t.ancestry, ∀ m ∈ t.named kind,
    ∃ b ∈ a.named kind, b.name = m.name ∧ b.value = m.value

lemma namedMembers_root {kind : MemberKind} {location : Location} {info : TypeInfo}
    {body : Body TypeDef} {decls : List (Located MemberDecl)}
    (h : rootMembers kind location decls = .ok ((⟨info, none, body⟩ : TypeDef).named kind)) :
    NamedMembers kind ⟨info, none, body⟩ where
  nonempty := by
    obtain ⟨hne, -, hnames⟩ := rootMembers_eq_ok h
    intro hnil
    rw [hnil, List.forall₂_nil_right_iff] at hnames
    exact hne hnames
  distinct := (rootMembers_eq_ok h).2.1
  inherited := by
    intro a ha m hm
    rw [TypeDef.ancestry_root, List.mem_singleton] at ha
    exact ⟨m, ha ▸ hm, rfl, rfl⟩

lemma NamedMembers.step {kind : MemberKind} {info : TypeInfo} {base : TypeDef}
    {body : Body TypeDef} {decls : List (Located MemberDecl)} (hbase : NamedMembers kind base)
    (h : derivedMembers kind (base.named kind) decls =
      .ok ((⟨info, some base, body⟩ : TypeDef).named kind)) :
    NamedMembers kind ⟨info, some base, body⟩ where
  nonempty := by
    rcases derivedMembers_eq_ok h with ⟨-, heq⟩ | ⟨hne, hselects⟩
    · rw [heq]
      exact hbase.nonempty
    · intro hnil
      rw [hnil, List.forall₂_nil_right_iff] at hselects
      exact hne hselects
  distinct := hbase.distinct.derivedMembers h
  inherited := by
    intro a ha m hm
    rw [TypeDef.ancestry_derived] at ha
    rcases List.mem_cons.mp ha with rfl | hancestor
    · exact ⟨m, hm, rfl, rfl⟩
    · obtain ⟨b, hb, hname, hvalue⟩ := exists_mem_of_derivedMembers h hm
      obtain ⟨c, hc, hcname, hcvalue⟩ := hbase.inherited a hancestor b hb
      exact ⟨c, hc, hcname.trans hname, hcvalue.trans hvalue⟩

/-- All bits and enumerations have such members. -/
lemma Lineage.namedMembers {root t : TypeDef} {steps : List Derivation}
    (h : Lineage root steps t) (kind : MemberKind) : t.kind = kind.toKind → NamedMembers kind t := by
  refine Lineage.ind ?builtin ?root ?step h
  case builtin =>
    intro k facets hfacets hkind
    cases k <;> cases hfacets <;> cases kind <;>
      simp [Kind.define, TypeDef.kind, Facets.kind, MemberKind.toKind] at hkind
  case root =>
    intro d mark rootKind body _ _ hroot hkind
    exact namedMembers_root (hroot.named (hroot.kind_eq.symm.trans hkind))
  case step =>
    intro d mark root steps base body hstart hsupported hstep ih hkind
    exact (ih (hstep.kind_eq.symm.trans hkind)).step (hstep.named hsupported hstart)

/-! ### Unions along a chain -/

lemma forall₂_trans {α : Type} {R : α → α → Prop} (hR : ∀ a b c, R a b → R b c → R a c)
    {as bs cs : List α} (hab : List.Forall₂ R as bs) (hbc : List.Forall₂ R bs cs) :
    List.Forall₂ R as cs := by
  induction hab generalizing cs with
  | nil => exact hbc
  | cons h _ ih =>
      obtain ⟨c, cs, h', hrest, rfl⟩ := List.forall₂_cons_left_iff.mp hbc
      exact .cons (hR _ _ _ h h') (ih hrest)

/-- There are members, and they derive, place by place, from those of every
ancestor, which has as many. -/
structure UnionMembers (t : TypeDef) : Prop where
  nonempty : t.members ≠ []
  refined : ∀ a ∈ t.ancestry,
    List.Forall₂ (fun m b => m.derivesFrom b = true) t.members a.members

lemma forall₂_derivesFrom_refl (members : List TypeDef) :
    List.Forall₂ (fun m b => m.derivesFrom b = true) members members :=
  List.forall₂_same.mpr fun m _ => m.derivesFrom_refl

/-- Members of a step derive from those of the base. -/
lemma forall₂_derivesFrom_of_derive {base members : List TypeDef} {decls : List (Located TypeDef)}
    (h : deriveUnionMembers base decls = .ok members) :
    List.Forall₂ (fun m b => m.derivesFrom b = true) members base := by
  rcases deriveUnionMembers_eq_ok.mp h with ⟨-, rfl⟩ | ⟨-, rfl, hderives⟩
  · exact forall₂_derivesFrom_refl _
  · rw [List.forall₂_map_left_iff]
    exact hderives

lemma UnionMembers.step {info : TypeInfo} {base : TypeDef} {body : Body TypeDef}
    {decls : List (Located TypeDef)} (hbase : UnionMembers base)
    (h : deriveUnionMembers base.members decls =
      .ok (⟨info, some base, body⟩ : TypeDef).members) :
    UnionMembers ⟨info, some base, body⟩ where
  nonempty := by
    intro hnil
    have hderives := forall₂_derivesFrom_of_derive h
    rw [hnil, List.forall₂_nil_left_iff] at hderives
    exact hbase.nonempty hderives
  refined := by
    intro a ha
    rw [TypeDef.ancestry_derived] at ha
    rcases List.mem_cons.mp ha with rfl | hancestor
    · exact forall₂_derivesFrom_refl _
    · exact forall₂_trans (R := fun (m b : TypeDef) => m.derivesFrom b = true)
        (fun _ _ _ => TypeDef.derivesFrom_trans) (forall₂_derivesFrom_of_derive h)
        (hbase.refined a hancestor)

/-- All unions have such members. -/
lemma Lineage.unionMembers {root t : TypeDef} {steps : List Derivation}
    (h : Lineage root steps t) : t.kind = .union → UnionMembers t := by
  refine Lineage.ind ?builtin ?root ?step h
  case builtin =>
    intro k facets hfacets hkind
    cases k <;> cases hfacets <;> simp [Kind.define, TypeDef.kind, Facets.kind] at hkind
  case root =>
    intro d mark rootKind body _ _ hroot hkind
    cases hroot with
    | union hne =>
        refine ⟨by simpa [TypeDef.members] using hne, fun a ha => ?_⟩
        rw [TypeDef.ancestry_root, List.mem_singleton] at ha
        rw [ha]
        exact forall₂_derivesFrom_refl _
    | _ => simp [TypeDef.kind, Facets.kind] at hkind
  case step =>
    intro d mark root steps base body hstart hsupported hstep ih hkind
    exact (ih (hstep.kind_eq.symm.trans hkind)).step (hstep.members hsupported hstart)

/-- **Members along a chain.** However a type was built: if it has bits or
enums, they differ in names and in numbers, and have in every ancestor the
numbers that they have in the type; if it is a union, its members derive place
by place from those of every ancestor. In both cases there is at least one. -/
theorem members_consistent_with_ancestry {root t : TypeDef} {steps : List Derivation}
    (h : Lineage root steps t) :
    (∀ kind : MemberKind, t.kind = kind.toKind → NamedMembers kind t) ∧
      (t.kind = .union → UnionMembers t) :=
  ⟨h.namedMembers, h.unionMembers⟩

/-- An enumeration of which a step selects two enums in another order, and a
union of which a step narrows the first member. -/
theorem members_consistent_with_ancestry_two_chains :
    let colours : Derivation :=
      ⟨.root .enumeration, [⟨.enum ⟨"red", none, .none⟩, "1"⟩, ⟨.enum ⟨"green", some 5, .none⟩, "2"⟩,
        ⟨.enum ⟨"blue", none, .none⟩, "3"⟩], .root, ⟨false⟩⟩
    let colour : TypeDef := ⟨colours.info 0, none, .simple (.enumeration
      [⟨"red", 0, .none⟩, ⟨"green", 5, .none⟩, ⟨"blue", 6, .none⟩])⟩
    let selection : Derivation :=
      ⟨.type colour, [⟨.enum ⟨"blue", none, .none⟩, "1"⟩, ⟨.enum ⟨"red", some 0, .none⟩, "2"⟩],
        .root, ⟨false⟩⟩
    let shade : TypeDef := ⟨selection.info 0, some colour, .simple (.enumeration
      [⟨"blue", 6, .none⟩, ⟨"red", 0, .none⟩])⟩
    let boolean := Kind.boolean.define .boolean
    let choice : Derivation :=
      ⟨.root .union, [⟨.type colour, "1"⟩, ⟨.type boolean, "2"⟩], .root, ⟨false⟩⟩
    let wide : TypeDef := ⟨choice.info 0, none, .union [colour, boolean]⟩
    let narrowing : Derivation :=
      ⟨.type wide, [⟨.type shade, "1"⟩, ⟨.type boolean, "2"⟩], .root, ⟨false⟩⟩
    let narrow : TypeDef := ⟨narrowing.info 0, some wide, .union [shade, boolean]⟩
    Lineage colour [selection, colours] shade ∧ Lineage wide [narrowing, choice] narrow ∧
      NamedMembers .enum shade ∧ UnionMembers narrow := by
  intro colours colour selection shade boolean choice wide narrowing narrow
  have hcolours : colours.build 0 = .ok colour := rfl
  have hselection : selection.build 0 = .ok shade := rfl
  have hchoice : choice.build 0 = .ok wide := rfl
  have hshade : shade.derivesFrom colour = true :=
    TypeDef.derivesFrom_iff.mpr (List.mem_cons_of_mem _ (List.mem_singleton_self _))
  have hnarrowing : narrowing.build 0 = .ok narrow := by
    refine build_eq_ok.mpr ⟨rfl, ⟨.union [shade, boolean], ?_, rfl⟩, rfl⟩
    refine map_eq_ok.mpr ⟨[shade, boolean], deriveUnionMembers_eq_ok.mpr ?_, rfl⟩
    refine .inr ⟨List.cons_ne_nil _ _, rfl, ?_⟩
    exact .cons hshade (.cons boolean.derivesFrom_refl .nil)
  have henums : Lineage colour [selection, colours] shade :=
    .step (.root (show colours.start = .root .enumeration from rfl) hcolours) rfl hselection
  have hunions : Lineage wide [narrowing, choice] narrow :=
    .step (.root (show choice.start = .root .union from rfl) hchoice) rfl hnarrowing
  exact ⟨henums, hunions, (members_consistent_with_ancestry henums).1 .enum rfl,
    (members_consistent_with_ancestry hunions).2 rfl⟩

end YangTypes
