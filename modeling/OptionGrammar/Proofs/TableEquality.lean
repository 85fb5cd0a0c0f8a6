import OptionGrammar.Proofs.Printable
import OptionGrammar.Session

/-
  Equal tables behave alike.

  Tables are compared by their declarations, and value patterns by
  the text they were declared with: neither the compiled expression
  of a pattern nor the spelling index takes part in the comparison.
  A pattern built by compiling a text is fixed by that text, since
  compiling is a function of the text alone, and the spelling index
  is fixed by the declarations it agrees with.  So two tables whose
  patterns were all built by compiling and that compare equal are
  the same table, and spelling look-up, matching, the checks, the
  help text and the printed grammar agree on them.

  Main declarations:
    * `ValuePattern.Built`, `OptionTable.PatternsBuilt`
    * `ValuePattern.eq_of_declared_eq`
    * `OptionSpec.eq_of_beq_of_built`, `OptionTable.eq_of_beq_of_built`
    * `OptionTable.beq_congruence`
-/

------------------------------------------------------------
-- Patterns Built by Compiling
------------------------------------------------------------

namespace OptionGrammar

namespace ValuePattern

/- A pattern is built when compiling some text gave it. -/
def Built (p : ValuePattern) : Prop := ∃ text, ValuePattern.compile text = .ok p

/- A built pattern is what compiling its own declared text gives. -/
theorem Built.compile_declared
    {p : ValuePattern}
    (h : p.Built) :
    ValuePattern.compile p.declared = .ok p := by
  obtain ⟨text, hText⟩ := h
  rw [declared_of_compile hText]
  exact hText

/- Two built patterns declared with the same text are the same pattern. -/
theorem eq_of_declared_eq
    {p q : ValuePattern}
    (hp : p.Built)
    (hq : q.Built)
    (h : p.declared = q.declared) :
    p = q := by
  have hCompile := hp.compile_declared
  rw [h, hq.compile_declared] at hCompile
  exact (Except.ok.inj hCompile).symm

end ValuePattern

namespace OptionSpec

/-
  Declarations that compare equal and whose patterns were built are
  equal: `==` misses only the compiled expressions, and those are
  fixed by the declared texts it compares.
-/
theorem eq_of_beq_of_built
    {a b : OptionSpec}
    (h : (a == b) = true)
    (ha : ∀ p ∈ a.param, p.Built)
    (hb : ∀ p ∈ b.param, p.Built) :
    a = b := by
  obtain ⟨hSpellings, hOptional, hGroup, hUnique, hParam, hHelp⟩ := (beq_iff a b).mp h
  have hParamEq : a.param = b.param := by
    cases hA : a.param with
    | none =>
        rw [hA, Option.map_none] at hParam
        exact (Option.map_eq_none_iff.mp hParam.symm).symm
    | some p =>
        rw [hA, Option.map_some] at hParam
        obtain ⟨q, hB, hDeclared⟩ := Option.map_eq_some_iff.mp hParam.symm
        rw [hB, ValuePattern.eq_of_declared_eq (ha p hA) (hb q hB) hDeclared.symm]
  cases a
  cases b
  dsimp only at hSpellings hOptional hGroup hUnique hParamEq hHelp
  subst hSpellings hOptional hGroup hUnique hParamEq hHelp
  rfl

end OptionSpec

------------------------------------------------------------
-- Equal Tables Are the Same Table
------------------------------------------------------------

namespace OptionTable

/- Every pattern of the table was built by compiling a text. -/
def PatternsBuilt (t : OptionTable) : Prop := ∀ s ∈ t.specs, ∀ p ∈ s.param, p.Built

theorem specs_eq_of_beq_of_built
    {xs ys : List OptionSpec}
    (h : List.Forall₂ (fun a b => (a == b) = true) xs ys)
    (hx : ∀ s ∈ xs, ∀ p ∈ s.param, p.Built)
    (hy : ∀ s ∈ ys, ∀ p ∈ s.param, p.Built) :
    xs = ys := by
  induction h with
  | nil => rfl
  | @cons a b xs ys hHead _ ih =>
      rw [OptionSpec.eq_of_beq_of_built hHead (hx a List.mem_cons_self) (hy b List.mem_cons_self),
        ih (fun s hs => hx s (List.mem_cons_of_mem a hs)) (fun s hs => hy s (List.mem_cons_of_mem b hs))]

/-
  Tables that compare equal and whose patterns were built are equal:
  their declarations are, and so are the indexes that agree with them.
-/
theorem eq_of_beq_of_built
    {t u : OptionTable}
    (h : (t == u) = true)
    (ht : t.PatternsBuilt)
    (hu : u.PatternsBuilt) :
    t = u :=
  ext (specs_eq_of_beq_of_built ((specs_beq_iff _ _).mp h) ht hu)

/-
  The comparison of tables is a congruence for everything a table
  does, once its patterns were built by compiling: equal tables
  are the same table, so they look every spelling up alike, match
  every list of arguments alike, report the same violations for
  every capture and policy, and print the same help and grammar.
-/
theorem beq_congruence
    (t u : OptionTable)
    (hEqual : (t == u) = true)
    (ht : t.PatternsBuilt)
    (hu : u.PatternsBuilt) :
    t = u ∧
      (∀ spelling, t.lookup spelling = u.lookup spelling) ∧
      (∀ args, t.scan args = u.scan args) ∧
      (∀ c policy, t.check c policy = u.check c policy) ∧
      (∀ config, t.renderHelp config = u.renderHelp config) ∧
      t.toGrammar = u.toGrammar := by
  obtain rfl := eq_of_beq_of_built hEqual ht hu
  exact ⟨rfl, fun _ => rfl, fun _ => rfl, fun _ _ => rfl, fun _ => rfl, rfl⟩

/-
  A table of one option with the pattern `int`, written out by
  fields and built step by step: the two compare equal, their
  patterns were built by compiling, and they behave alike.
-/
theorem beq_congruence_count :
    let p := (ValuePattern.compile "int").toOption
    let s := ((OptionSpec.flag "-n").withAlias "--count").withHelp "Repetitions"
    let t : OptionTable :=
      OptionTable.ofSpecs [{ spellings := ["-n", "--count"], param := p, help := "Repetitions" }] (by decide)
    let u : OptionTable := OptionTable.ofSpecs [{ s with param := p }] (by decide)
    ((t == u) = true ∧ t.PatternsBuilt ∧ u.PatternsBuilt) ∧
      t = u ∧
      (∀ spelling, t.lookup spelling = u.lookup spelling) ∧
      (∀ args, t.scan args = u.scan args) ∧
      (∀ c policy, t.check c policy = u.check c policy) ∧
      (∀ config, t.renderHelp config = u.renderHelp config) ∧
      t.toGrammar = u.toGrammar := by
  obtain ⟨v, hv⟩ := OptionSpec.exists_compile_of_isSome "int" (by cbv)
  have hBuilt : v.Built := ⟨"int", hv⟩
  simp only [hv, Except.toOption]
  have hOne : ∀ a : OptionSpec, a.param = some v → ∀ s ∈ [a], ∀ p ∈ s.param, p.Built := by
    intro a ha s hs p hp
    rw [List.mem_singleton] at hs
    rw [hs, ha, Option.mem_def, Option.some.injEq] at hp
    exact hp ▸ hBuilt
  refine (fun h => ⟨h, beq_congruence _ _ h.1 h.2.1 h.2.2⟩) ⟨?_, hOne _ rfl, hOne _ rfl⟩
  exact (specs_beq_iff _ _).mpr
    (.cons ((OptionSpec.beq_iff _ _).mpr ⟨rfl, rfl, rfl, rfl, rfl, rfl⟩) .nil)

end OptionTable

end OptionGrammar
