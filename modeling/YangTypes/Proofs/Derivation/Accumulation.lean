import Mathlib.Tactic
import YangTypes.Derivation.Call
import YangTypes.Proofs.Bound.Narrowing
import YangTypes.Proofs.Derivation.Step

/-!
Runs of calls on an accumulator.

A call writes into the accumulator and may fail, and a run goes on after a
failure. Three facts about one call carry everything that is said about runs.

* `perform_eq`: a call is a transaction. It checks before it writes, so what it
  leaves after a failure is what it found.
* `Effect`: what a call that succeeds has written, and what it required.
* `perform_eq_alone`: a call reads and writes one part of the accumulator, apart
  from what the step started with. Calls on different parts therefore commute
  (`performAll_pair_comm`).

The run is then described by the calls in it that succeeded (`succeeded`): alone
they leave the same accumulator (`performAll_succeeded`), and each part is made
of what they brought (`toList_bounds_performAll` and the lemmas after it).
-/

namespace YangTypes.AccumulatorCall

/-! ### A call is a transaction -/

section

variable {acc : Accumulator} {α β : Type}

lemma run_get_bind (f : Accumulator → ExceptT TypeFault (StateM Accumulator) β) :
    (get >>= f).run.run acc = (f acc).run.run acc := rfl

lemma run_ite (p : Prop) [Decidable p] (x y : ExceptT TypeFault (StateM Accumulator) β) :
    (if p then x else y).run.run acc = if p then x.run.run acc else y.run.run acc :=
  apply_ite (fun z : ExceptT TypeFault (StateM Accumulator) β => z.run.run acc) p x y

lemma run_throw (fault : TypeFault) :
    (throw fault : ExceptT TypeFault (StateM Accumulator) β).run.run acc = (.error fault, acc) :=
  rfl

lemma run_modify (f : Accumulator → Accumulator) :
    (modify f : ExceptT TypeFault (StateM Accumulator) PUnit).run.run acc = (.ok (), f acc) := rfl

lemma run_liftExcept_bind (x : Except TypeFault α)
    (f : α → ExceptT TypeFault (StateM Accumulator) β) :
    (liftExcept x >>= f).run.run acc =
      match x with
      | .error fault => (.error fault, acc)
      | .ok a => (f a).run.run acc := by
  cases x <;> rfl

end

/-- A call as a function that gives the new accumulator if nothing fails. -/
def transaction (acc : Accumulator) : AccumulatorCall → Except TypeFault Accumulator
  | setRanges candidate => acc.setBounds .range candidate
  | setLengths candidate => acc.setBounds .length candidate
  | addPattern pattern => .ok (acc.addPattern pattern)
  | setFractionDigits digits => acc.setFractionDigits digits

lemma run_takeBounds (keyword : BoundKeyword) (candidate : List Constraint) (acc : Accumulator) :
    (takeBounds keyword candidate).run.run acc =
      match acc.setBounds keyword candidate with
      | .error fault => (.error fault, acc)
      | .ok after => (.ok (), after) := by
  simp only [takeBounds, run_get_bind, run_ite, run_liftExcept_bind, run_modify,
    Accumulator.setBounds]
  cases acc.bounds keyword with
  | some bounds => rfl
  | none => cases narrow keyword (acc.base.bounds keyword) candidate <;> rfl

/-- **A call is a transaction**: it leaves the new accumulator, or the old one if
it fails. -/
theorem perform_eq (call : AccumulatorCall) (acc : Accumulator) :
    call.perform acc =
      match call.transaction acc with
      | .error fault => (.error fault, acc)
      | .ok after => (.ok (), after) := by
  cases call with
  | setRanges candidate => exact run_takeBounds .range candidate acc
  | setLengths candidate => exact run_takeBounds .length candidate acc
  | addPattern pattern => rfl
  | setFractionDigits digits =>
      simp only [perform, procedure, run_get_bind, transaction, Accumulator.setFractionDigits]
      cases acc.base.fractionDigits with
      | some base =>
          simp only [run_get_bind, run_ite, run_throw]
          by_cases hconflict : base ≠ digits ∧ acc.options.strictFractionDigits = true
          · rw [if_pos hconflict, if_pos hconflict]
          · rw [if_neg hconflict, if_neg hconflict]
            rfl
      | none =>
          simp only [run_get_bind, run_ite, run_modify]
          by_cases hvalid : ValidScale digits
          · rw [if_neg (not_not.mpr hvalid), if_neg (not_not.mpr hvalid)]
            cases acc.fractionDigits <;> rfl
          · rw [if_pos hvalid, if_pos hvalid]
            rfl

/-- A call that fails changes nothing. -/
lemma perform_of_error {call : AccumulatorCall} {acc : Accumulator} {fault : TypeFault}
    (h : (call.perform acc).1 = .error fault) : (call.perform acc).2 = acc := by
  rw [perform_eq] at h ⊢
  cases hcall : call.transaction acc with
  | error fault' => rfl
  | ok after => simp [hcall] at h

/-- What a call that succeeds has required and written. -/
inductive Effect (acc : Accumulator) : AccumulatorCall → Accumulator → Prop where
  | setRanges {candidate : List Constraint} (unset : acc.ranges = none) :
      Effect acc (.setRanges candidate) { acc with ranges := some (sortByLow candidate) }
  | setLengths {candidate : List Constraint} (unset : acc.lengths = none) :
      Effect acc (.setLengths candidate) { acc with lengths := some (sortByLow candidate) }
  | addPattern {pattern : Pattern} : Effect acc (.addPattern pattern) (acc.addPattern pattern)
  | keepDigits {digits base : ℕ} (inherited : acc.base.fractionDigits = some base) :
      Effect acc (.setFractionDigits digits) acc
  | setDigits {digits : ℕ} (rootless : acc.base.fractionDigits = none)
      (unset : acc.fractionDigits = none) :
      Effect acc (.setFractionDigits digits) { acc with fractionDigits := some digits }

/-- The cases of `Effect` are all that a call does if it succeeds. -/
lemma effect_of_transaction {call : AccumulatorCall} {acc after : Accumulator}
    (h : call.transaction acc = .ok after) : Effect acc call after := by
  cases call with
  | setRanges candidate =>
      obtain ⟨hunset, result, hnarrow, rfl⟩ := setBounds_eq_ok.mp h
      obtain ⟨-, -, -, rfl⟩ := narrow_eq_ok_iff.mp hnarrow
      exact .setRanges hunset
  | setLengths candidate =>
      obtain ⟨hunset, result, hnarrow, rfl⟩ := setBounds_eq_ok.mp h
      obtain ⟨-, -, -, rfl⟩ := narrow_eq_ok_iff.mp hnarrow
      exact .setLengths hunset
  | addPattern pattern =>
      obtain rfl := Except.ok.inj h
      exact .addPattern
  | setFractionDigits digits =>
      rw [transaction, Accumulator.setFractionDigits] at h
      split at h
      next base hbase =>
        split at h
        next => simp at h
        next =>
          obtain rfl := Except.ok.inj h
          exact .keepDigits hbase
      next hbase =>
        split at h
        next => simp at h
        next =>
          split at h
          next => simp at h
          next hunset =>
            obtain rfl := Except.ok.inj h
            exact .setDigits hbase hunset

/-! ### Calls on different parts -/

/-- The parts of an accumulator that calls write. -/
inductive Part where
  | ranges
  | lengths
  | patterns
  | fractionDigits
deriving DecidableEq

/-- The part that a call is about. -/
def part : AccumulatorCall → Part
  | setRanges _ => .ranges
  | setLengths _ => .lengths
  | addPattern _ => .patterns
  | setFractionDigits _ => .fractionDigits

namespace Part

/-- What a part holds. -/
def Content : Part → Type
  | ranges => Option (List Constraint)
  | lengths => Option (List Constraint)
  | patterns => List Pattern
  | fractionDigits => Option ℕ

/-- The content of a part. -/
def read : (p : Part) → Accumulator → p.Content
  | ranges => Accumulator.ranges
  | lengths => Accumulator.lengths
  | patterns => Accumulator.patterns
  | fractionDigits => Accumulator.fractionDigits

/-- Replaces the content of a part. -/
def write : (p : Part) → p.Content → Accumulator → Accumulator
  | ranges => fun content acc => { acc with ranges := content }
  | lengths => fun content acc => { acc with lengths := content }
  | patterns => fun content acc => { acc with patterns := content }
  | fractionDigits => fun content acc => { acc with fractionDigits := content }

variable {p q : Part}

lemma base_write (content : p.Content) (acc : Accumulator) :
    (p.write content acc).base = acc.base := by
  cases p <;> rfl

lemma options_write (content : p.Content) (acc : Accumulator) :
    (p.write content acc).options = acc.options := by
  cases p <;> rfl

lemma read_write_of_ne (h : p ≠ q) (content : q.Content) (acc : Accumulator) :
    p.read (q.write content acc) = p.read acc := by
  cases p <;> cases q <;> simp at h <;> rfl

lemma write_comm (h : p ≠ q) (content : p.Content) (content' : q.Content) (acc : Accumulator) :
    p.write content (q.write content' acc) = q.write content' (p.write content acc) := by
  cases p <;> cases q <;> simp at h <;> rfl

end Part

/-- An accumulator of which only the part that a call is about is kept. -/
def alone (call : AccumulatorCall) (acc : Accumulator) : Accumulator :=
  call.part.write (call.part.read acc) (.start acc.base acc.options)

/-- Of an accumulator, bounds that are taken depend on the bounds with the same
keyword and on the base. -/
lemma setBounds_eq_of_bounds_eq {keyword : BoundKeyword} {acc acc' : Accumulator}
    (candidate : List Constraint) (hbase : acc'.base = acc.base)
    (hbounds : acc'.bounds keyword = acc.bounds keyword) :
    acc.setBounds keyword candidate = (acc'.setBounds keyword candidate).map fun after =>
      acc.withBounds (after.bounds keyword) keyword := by
  rw [Accumulator.setBounds, Accumulator.setBounds, hbase, hbounds]
  cases acc.bounds keyword with
  | some bounds => rfl
  | none =>
      cases narrow keyword (acc.base.bounds keyword) candidate with
      | error fault => rfl
      | ok result => simp [Except.map]

/-- A call reads and writes its own part only. -/
lemma transaction_eq_alone (call : AccumulatorCall) (acc : Accumulator) :
    call.transaction acc = (call.transaction (call.alone acc)).map fun after =>
      call.part.write (call.part.read after) acc := by
  have hbase : (call.alone acc).base = acc.base := Part.base_write _ _
  obtain ⟨base, options, ranges, lengths, patterns, digits⟩ := acc
  cases call with
  | setRanges candidate => exact setBounds_eq_of_bounds_eq candidate hbase rfl
  | setLengths candidate => exact setBounds_eq_of_bounds_eq candidate hbase rfl
  | addPattern pattern => rfl
  | setFractionDigits declared =>
      rw [show alone _ _ = ⟨base, options, none, none, [], digits⟩ from rfl]
      simp only [transaction, Accumulator.setFractionDigits]
      cases base.fractionDigits with
      | some inherited =>
          by_cases hconflict : inherited ≠ declared ∧ options.strictFractionDigits = true
          · simp only [if_pos hconflict]
            rfl
          · simp only [if_neg hconflict]
            rfl
      | none =>
          by_cases hvalid : ValidScale declared
          · simp only [if_neg (not_not.mpr hvalid)]
            cases digits <;> rfl
          · simp only [if_pos hvalid]
            rfl

lemma Part.write_read (p : Part) (acc : Accumulator) : p.write (p.read acc) acc = acc := by
  cases p <;> rfl

lemma part_read_alone (call : AccumulatorCall) (acc : Accumulator) :
    call.part.read (call.alone acc) = call.part.read acc := by
  cases call <;> rfl

lemma perform_eq_alone (call : AccumulatorCall) (acc : Accumulator) :
    call.perform acc = ((call.perform (call.alone acc)).1,
      call.part.write (call.part.read (call.perform (call.alone acc)).2) acc) := by
  rw [perform_eq, perform_eq, transaction_eq_alone]
  cases call.transaction (call.alone acc) with
  | error fault =>
      simp only [Except.map, part_read_alone, Part.write_read]
  | ok after => rfl

/-- What stands in other parts does not matter to a call. -/
lemma alone_write {call : AccumulatorCall} {p : Part} (h : call.part ≠ p) (content : p.Content)
    (acc : Accumulator) : call.alone (p.write content acc) = call.alone acc := by
  rw [alone, alone, Part.read_write_of_ne h, Part.base_write, Part.options_write]

/-- **Calls on different parts commute**: in either order each of them gives the
same answer, and both orders leave the same accumulator. -/
lemma performAll_pair_comm {a b : AccumulatorCall} (h : a.part ≠ b.part) (acc : Accumulator) :
    ∃ answer answer' after, performAll [a, b] acc = ([answer, answer'], after) ∧
      performAll [b, a] acc = ([answer', answer], after) := by
  have hpair : ∀ {a b : AccumulatorCall}, b.part ≠ a.part → performAll [a, b] acc =
      ([(a.perform (a.alone acc)).1, (b.perform (b.alone acc)).1],
        b.part.write (b.part.read (b.perform (b.alone acc)).2)
          (a.part.write (a.part.read (a.perform (a.alone acc)).2) acc)) := by
    intro a b h
    simp only [performAll]
    rw [perform_eq_alone a acc, perform_eq_alone b, alone_write h]
  refine ⟨_, _, _, hpair h.symm, ?_⟩
  rw [hpair h, Part.write_comm h]

/-! ### The calls of a run that succeed -/

/-- The calls that do not fail when all are carried out in order. -/
def succeeded (calls : List AccumulatorCall) (acc : Accumulator) : List AccumulatorCall :=
  (((performAll calls acc).1.zip calls).filter fun p => p.1.isOk).map Prod.snd

section

variable {call : AccumulatorCall} {calls : List AccumulatorCall} {acc : Accumulator}

lemma performAll_cons :
    performAll (call :: calls) acc =
      ((call.perform acc).1 :: (performAll calls (call.perform acc).2).1,
        (performAll calls (call.perform acc).2).2) := rfl

lemma succeeded_cons_of_ok (h : (call.perform acc).1 = .ok ()) :
    succeeded (call :: calls) acc = call :: succeeded calls (call.perform acc).2 := by
  simp [succeeded, performAll_cons, h, Except.isOk, Except.toBool]

lemma succeeded_cons_of_error {fault : TypeFault} (h : (call.perform acc).1 = .error fault) :
    succeeded (call :: calls) acc = succeeded calls acc := by
  simp [succeeded, performAll_cons, h, Except.isOk, Except.toBool, perform_of_error h]

/-- Without the calls that fail, no call fails, and the run leaves the same
accumulator. -/
lemma performAll_succeeded (calls : List AccumulatorCall) (acc : Accumulator) :
    performAll (succeeded calls acc) acc =
      ((succeeded calls acc).map fun _ => .ok (), (performAll calls acc).2) := by
  induction calls generalizing acc with
  | nil => rfl
  | cons call calls ih =>
      cases h : (call.perform acc).1 with
      | ok =>
          rw [succeeded_cons_of_ok h, performAll_cons, performAll_cons, ih, List.map_cons, h]
      | error fault =>
          rw [succeeded_cons_of_error h, ih, performAll_cons, perform_of_error h]

end

/-! ### What a run leaves -/

section

variable {call : AccumulatorCall} {calls : List AccumulatorCall} {acc : Accumulator}

lemma effect_of_perform (h : (call.perform acc).1 = .ok ()) :
    Effect acc call (call.perform acc).2 := by
  rw [perform_eq] at h ⊢
  cases hcall : call.transaction acc with
  | error fault => simp [hcall] at h
  | ok after => exact effect_of_transaction hcall

lemma Effect.base_eq {after : Accumulator} (h : Effect acc call after) :
    after.base = acc.base := by
  cases h <;> rfl

/-- What the step started with stays as it is. -/
lemma base_performAll (calls : List AccumulatorCall) (acc : Accumulator) :
    (performAll calls acc).2.base = acc.base := by
  induction calls generalizing acc with
  | nil => rfl
  | cons call calls ih =>
      rw [performAll_cons, ih]
      cases h : (call.perform acc).1 with
      | ok => exact (effect_of_perform h).base_eq
      | error fault => rw [perform_of_error h]

/-- If every call that succeeds adds to a list what it brings, a run adds what
the calls bring that succeed in it. -/
lemma performAll_collects {α : Type} (content : Accumulator → List α)
    {brought : AccumulatorCall → Option α} (acc : Accumulator)
    (hstep : ∀ {acc' after : Accumulator} {call : AccumulatorCall}, acc'.base = acc.base →
      Effect acc' call after → content after = content acc' ++ (brought call).toList) :
    content (performAll calls acc).2 =
      content acc ++ (succeeded calls acc).filterMap brought := by
  induction calls generalizing acc with
  | nil => exact (List.append_nil _).symm
  | cons call calls ih =>
      rw [performAll_cons]
      cases h : (call.perform acc).1 with
      | ok =>
          have heffect := effect_of_perform h
          have hrest := ih (call.perform acc).2 fun hbase =>
            hstep (hbase.trans heffect.base_eq)
          rw [succeeded_cons_of_ok h, hrest, hstep rfl heffect]
          cases hbrought : brought call <;> simp [hbrought]
      | error fault =>
          rw [succeeded_cons_of_error h, perform_of_error h]
          exact ih acc hstep

end

end YangTypes.AccumulatorCall

namespace YangTypes

lemma Accumulator.bounds_finish (acc : Accumulator) (keyword : BoundKeyword) :
    acc.finish.bounds keyword = (acc.bounds keyword).getD (acc.base.bounds keyword) := by
  cases keyword <;> rfl

namespace AccumulatorCall

/-- The call that takes a range or a length. -/
def setBounds : BoundKeyword → List Constraint → AccumulatorCall
  | .range => setRanges
  | .length => setLengths

/-- The candidate of a call that takes a range or a length. -/
def bounds? : BoundKeyword → AccumulatorCall → Option (List Constraint)
  | .range, setRanges candidate => some candidate
  | .length, setLengths candidate => some candidate
  | _, _ => none

/-- The pattern of a call that adds one. -/
def pattern? : AccumulatorCall → Option Pattern
  | addPattern pattern => some pattern
  | _ => none

/-- The digits of a call that takes fraction digits. -/
def digits? : AccumulatorCall → Option ℕ
  | setFractionDigits digits => some digits
  | _ => none

/-- The bounds are the sorted candidates of the calls that succeeded. -/
lemma toList_bounds_performAll (keyword : BoundKeyword) (calls : List AccumulatorCall)
    (acc : Accumulator) :
    ((performAll calls acc).2.bounds keyword).toList = (acc.bounds keyword).toList ++
      ((succeeded calls acc).filterMap (bounds? keyword)).map sortByLow := by
  rw [List.map_filterMap]
  refine performAll_collects (fun acc => (acc.bounds keyword).toList) acc ?_
  intro acc' after call _ heffect
  cases heffect with
  | setRanges hunset => cases keyword <;> simp [Accumulator.bounds, bounds?, hunset]
  | setLengths hunset => cases keyword <;> simp [Accumulator.bounds, bounds?, hunset]
  | addPattern => cases keyword <;> simp [Accumulator.bounds, bounds?, Accumulator.addPattern]
  | keepDigits => cases keyword <;> simp [bounds?]
  | setDigits => cases keyword <;> simp [Accumulator.bounds, bounds?]

/-- The digits are those of the calls that succeeded, if the base has none. -/
lemma toList_fractionDigits_performAll (calls : List AccumulatorCall) {acc : Accumulator}
    (hbase : acc.base.fractionDigits = none) :
    (performAll calls acc).2.fractionDigits.toList =
      acc.fractionDigits.toList ++ (succeeded calls acc).filterMap digits? := by
  refine performAll_collects (fun acc => acc.fractionDigits.toList) acc ?_
  intro acc' after call hsame heffect
  cases heffect with
  | setRanges => simp [digits?]
  | setLengths => simp [digits?]
  | addPattern => simp [digits?, Accumulator.addPattern]
  | keepDigits hinherited => simp [hsame, hbase] at hinherited
  | setDigits _ hunset => simp [digits?, hunset]

/-- A call that adds a pattern does not fail. -/
lemma filterMap_pattern?_succeeded (calls : List AccumulatorCall) (acc : Accumulator) :
    (succeeded calls acc).filterMap pattern? = calls.filterMap pattern? := by
  induction calls generalizing acc with
  | nil => rfl
  | cons call calls ih =>
      cases h : (call.perform acc).1 with
      | ok => rw [succeeded_cons_of_ok h, List.filterMap_cons, List.filterMap_cons, ih]
      | error fault =>
          have hnone : call.pattern? = none := by
            cases call with
            | addPattern pattern => cases h
            | _ => rfl
          rw [succeeded_cons_of_error h, ih, List.filterMap_cons_none hnone]

/-- The patterns are those of all calls, in order. -/
lemma patterns_performAll (calls : List AccumulatorCall) (acc : Accumulator) :
    (performAll calls acc).2.patterns = acc.patterns ++ calls.filterMap pattern? := by
  rw [← filterMap_pattern?_succeeded calls acc]
  refine performAll_collects Accumulator.patterns acc ?_
  intro acc' after call _ heffect
  cases heffect <;> simp [pattern?, Accumulator.addPattern]

/-- A second range, or a second length, is refused whatever it is. -/
lemma perform_setBounds_of_some {keyword : BoundKeyword} {acc : Accumulator}
    {bounds : List Constraint} (h : acc.bounds keyword = some bounds)
    (candidate : List Constraint) :
    ((setBounds keyword candidate).perform acc).1 = .error (.repeated keyword.toKeyword) := by
  have hrefused : acc.setBounds keyword candidate = .error (.repeated keyword.toKeyword) := by
    rw [Accumulator.setBounds, h]
  have hcall : (setBounds keyword candidate).transaction acc = acc.setBounds keyword candidate := by
    cases keyword <;> rfl
  rw [perform_eq, hcall, hrefused]

/-- Once a range, or a length, is set, it stays set and every later one is
refused. -/
lemma perform_setBounds_later {keyword : BoundKeyword} {acc : Accumulator}
    {candidate : List Constraint} (h : ((setBounds keyword candidate).perform acc).1 = .ok ())
    (between : List AccumulatorCall) (later : List Constraint) :
    ((setBounds keyword later).perform
      (performAll between ((setBounds keyword candidate).perform acc).2).2).1 =
        .error (.repeated keyword.toKeyword) := by
  have hset : (((setBounds keyword candidate).perform acc).2.bounds keyword) =
      some (sortByLow candidate) := by
    have heffect := effect_of_perform h
    generalize ((setBounds keyword candidate).perform acc).2 = after at heffect ⊢
    cases keyword <;> cases heffect <;> rfl
  have hkept := toList_bounds_performAll keyword between
    ((setBounds keyword candidate).perform acc).2
  rw [hset, Option.toList_some, List.singleton_append] at hkept
  cases hfinal : (performAll between ((setBounds keyword candidate).perform acc).2).2.bounds
      keyword with
  | none => simp [hfinal] at hkept
  | some bounds => exact perform_setBounds_of_some hfinal later

/-! ### Runs from the start of a step -/

/-- The bounds in the end are the sorted candidate of the only call that
succeeded, or those of the base. -/
lemma exists_taken (base : Restrictions) (options : DerivationOptions)
    (calls : List AccumulatorCall) (keyword : BoundKeyword) :
    ∃ taken : Option (List Constraint),
      (succeeded calls (.start base options)).filterMap (bounds? keyword) = taken.toList ∧
      (performAll calls (.start base options)).2.finish.bounds keyword =
        (taken.map sortByLow).getD (base.bounds keyword) := by
  have hbounds := toList_bounds_performAll keyword calls (.start base options)
  rw [Accumulator.bounds_finish, base_performAll]
  have hstart : (Accumulator.start base options).bounds keyword = none := by
    cases keyword <;> rfl
  rw [hstart, Option.toList_none, List.nil_append] at hbounds
  cases hfinal : (performAll calls (.start base options)).2.bounds keyword with
  | none =>
      rw [hfinal, Option.toList_none, eq_comm, List.map_eq_nil_iff] at hbounds
      exact ⟨none, hbounds, rfl⟩
  | some bounds =>
      rw [hfinal, Option.toList_some, eq_comm, List.map_eq_singleton_iff] at hbounds
      obtain ⟨candidate, hcandidate, rfl⟩ := hbounds
      exact ⟨some candidate, hcandidate, rfl⟩

/-- **Calls on an accumulator are atomic.** A call that fails changes nothing, so
a run without the calls that fail leaves the same accumulator, and no call in it
fails. Of the calls that take a range, or a length, at most one succeeds; its
candidate, sorted, replaces that of the base, and every later call is refused as
a repetition. Patterns are those of the base and then all that were added.
Fraction digits are those of the base, or else those of the only call that
succeeded. Calls on different parts commute. -/
theorem accumulator_calls_atomic (base : Restrictions) (options : DerivationOptions)
    (calls : List AccumulatorCall) :
    let start := Accumulator.start base options
    let kept := succeeded calls start
    let final := (performAll calls start).2
    (∀ (call : AccumulatorCall) (acc : Accumulator) (fault : TypeFault),
      (call.perform acc).1 = .error fault → (call.perform acc).2 = acc) ∧
    performAll kept start = (kept.map fun _ => .ok (), final) ∧
    (∀ keyword, ∃ taken : Option (List Constraint),
      kept.filterMap (bounds? keyword) = taken.toList ∧
      final.finish.bounds keyword = (taken.map sortByLow).getD (base.bounds keyword)) ∧
    final.finish.patterns = base.patterns ++ calls.filterMap pattern? ∧
    (∀ digits, base.fractionDigits = some digits → final.finish.fractionDigits = some digits) ∧
    (base.fractionDigits = none →
      kept.filterMap digits? = final.finish.fractionDigits.toList) ∧
    (∀ (keyword : BoundKeyword) (acc : Accumulator) (candidate : List Constraint),
      ((setBounds keyword candidate).perform acc).1 = .ok () →
      ∀ (between : List AccumulatorCall) (later : List Constraint),
        ((setBounds keyword later).perform
          (performAll between ((setBounds keyword candidate).perform acc).2).2).1 =
            .error (.repeated keyword.toKeyword)) ∧
    ∀ (a b : AccumulatorCall) (acc : Accumulator), a.part ≠ b.part →
      ∃ answer answer' after, performAll [a, b] acc = ([answer, answer'], after) ∧
        performAll [b, a] acc = ([answer', answer], after) := by
  intro start kept final
  have hbase : final.base = base := base_performAll calls start
  refine ⟨fun _ _ _ => perform_of_error, performAll_succeeded calls start,
    exists_taken base options calls, ?_, fun digits hdigits => ?_, fun hnone => ?_,
    fun _ _ _ h => perform_setBounds_later h, fun _ _ acc h => performAll_pair_comm h acc⟩
  · rw [Accumulator.finish, hbase, patterns_performAll]
    rfl
  · rw [Accumulator.finish, Accumulator.effectiveDigits, hbase, hdigits]
    rfl
  · have hown : final.finish.fractionDigits = final.fractionDigits := by
      rw [Accumulator.finish, Accumulator.effectiveDigits, hbase, hnone]
      rfl
    have hstart : start.base.fractionDigits = none := hnone
    rw [hown, toList_fractionDigits_performAll calls hstart]
    rfl

/-- A range that is too wide, one that is taken, and one that comes too late,
with fraction digits between them. -/
theorem accumulator_calls_atomic_retry :
    let interval := fun low high : ℤ => Constraint.make .range ⟨.integer low, .integer high⟩ .none
    let base : Restrictions := ⟨[interval 0 100], [], [], none⟩
    let calls := [setRanges [interval 50 150], setFractionDigits 0,
      setRanges [interval 50 60, interval 1 2], setFractionDigits 2, setRanges [interval 3 4],
      setFractionDigits 3]
    let start := Accumulator.start base ⟨true⟩
    let kept := [setRanges [interval 50 60, interval 1 2], setFractionDigits 2]
    succeeded calls start = kept ∧
      performAll kept start = ([.ok (), .ok ()], (performAll calls start).2) ∧
      (performAll calls start).2.finish = ⟨[interval 1 2, interval 50 60], [], [], some 2⟩ ∧
      (setRanges [interval 50 150]).perform start =
        (.error (.notNarrower ⟨.integer 50, .integer 150⟩ [⟨.integer 0, .integer 100⟩]), start) ∧
      base.fractionDigits = none ∧
      kept.filterMap digits? = (performAll calls start).2.finish.fractionDigits.toList := by
  intro interval base calls start kept
  have hkept : succeeded calls start = kept := rfl
  obtain ⟨hatomic, hrun, -, -, -, hdigits, -⟩ := accumulator_calls_atomic base ⟨true⟩ calls
  have hwide : ((setRanges [interval 50 150]).perform start).1 =
      .error (.notNarrower ⟨.integer 50, .integer 150⟩ [⟨.integer 0, .integer 100⟩]) := rfl
  exact ⟨hkept, hrun, rfl, Prod.ext hwide (hatomic _ _ _ hwide), rfl, hdigits rfl⟩

end AccumulatorCall

end YangTypes
