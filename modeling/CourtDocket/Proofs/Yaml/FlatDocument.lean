/-
# Documents of a line for each member

The tokens of a text of lines (`tokens_flatText`) are those of a mapping of plain scalars.  Where a
draft stands in front of the tokens of a member, reading it adds its two scalars and leaves the
rest (`Drafting.blockMembers_member`); so the document of the text is the mapping of its members,
and nothing follows it (`Document.ofString_flatText`).
-/

import CourtDocket.Proofs.Yaml.FlatText
import CourtDocket.Yaml.Document

namespace CourtDocket
namespace Yaml

/-- A plain scalar without a tag. -/
def plainEvent (cs : List Char) : Event :=
  .scalar ⟨none, .plain, cs⟩

/-- The events of a member. -/
def memberEvents (m : Member) : List Event :=
  [plainEvent m.1, plainEvent m.2]

namespace Drafting

variable {d : Draft} {ts : List (Placed Token)}

/-- A key and a value are added to the events. -/
theorem blockMembers_member (fuel : ℕ) (m : Member) (p q r s : Place)
    (hd : d.tokens = ⟨.key, p⟩ :: ⟨.scalar .plain m.1, q⟩ :: ⟨.value, r⟩ ::
      ⟨.scalar .plain m.2, s⟩ :: ts) :
    (blockMembers (fuel + 3)).run d = (blockMembers (fuel + 2)).run
      { d with tokens := ts, events := plainEvent m.2 :: plainEvent m.1 :: d.events } := by
  cases d
  cases hd
  rfl

/-- The end of the block ends the mapping. -/
theorem blockMembers_end (fuel : ℕ) (p : Place) (hd : d.tokens = ⟨.blockEnd, p⟩ :: ts) :
    (blockMembers (fuel + 1)).run d =
      (.ok (), { d with tokens := ts, events := .mappingEnd :: d.events }) := by
  cases d
  cases hd
  rfl

/-- **The members of a mapping are read one after the other.** -/
theorem blockMembers_memberTokens (ms : List Member) (rest : List Token) {fuel : ℕ}
    (hfuel : ms.length + 2 ≤ fuel) (d : Draft)
    (hd : d.tokens.map (·.value) = ms.flatMap memberTokens ++ .blockEnd :: rest) :
    ∃ ts, ts.map (·.value) = rest ∧
      (blockMembers fuel).run d =
        (.ok (), { d with
          tokens := ts
          events := .mappingEnd :: ((ms.flatMap memberEvents).reverse ++ d.events) }) := by
  induction ms generalizing d fuel with
  | nil =>
    obtain ⟨fuel, rfl⟩ : ∃ k, fuel = k + 1 := ⟨fuel - 1, by omega⟩
    obtain ⟨⟨v, p⟩, ts, htokens, hv, hts⟩ := List.map_eq_cons_iff.1 hd
    cases hv
    exact ⟨ts, hts, blockMembers_end fuel p htokens⟩
  | cons m ms ih =>
    rw [List.length_cons] at hfuel
    obtain ⟨fuel, rfl⟩ : ∃ k, fuel = k + 3 := ⟨fuel - 3, by omega⟩
    obtain ⟨⟨v₁, p⟩, ts₁, htokens, hv₁, hts₁⟩ := List.map_eq_cons_iff.1 hd
    obtain ⟨⟨v₂, q⟩, ts₂, rfl, hv₂, hts₂⟩ := List.map_eq_cons_iff.1 hts₁
    obtain ⟨⟨v₃, r⟩, ts₃, rfl, hv₃, hts₃⟩ := List.map_eq_cons_iff.1 hts₂
    obtain ⟨⟨v₄, s⟩, ts₄, rfl, hv₄, hts₄⟩ := List.map_eq_cons_iff.1 hts₃
    cases hv₁
    cases hv₂
    cases hv₃
    cases hv₄
    have hmember := blockMembers_member fuel m p q r s htokens
    obtain ⟨ts, hts, hrun⟩ := ih (show ms.length + 2 ≤ fuel + 2 by omega)
      { d with tokens := ts₄, events := plainEvent m.2 :: plainEvent m.1 :: d.events } hts₄
    refine ⟨ts, hts, ?_⟩
    rw [hmember, hrun]
    simp [memberEvents]

/-- What follows a step starts from what the step leaves. -/
theorem run_bind_of_ok {α β : Type} {x : Drafting α} {f : α → Drafting β} {d d' : Draft} {a : α}
    (h : x.run d = (.ok a, d')) : (x >>= f).run d = (f a).run d' := by
  rw [ExceptT.run_bind]
  show StateT.bind (ExceptT.run x) _ d = _
  rw [StateT.bind, h]
  rfl

/-- A mapping without a mark before it is a document, if the text ends behind it. -/
theorem document_of_blockMembers {fuel : ℕ} {p q : Place} {d' : Draft}
    (hd : d.tokens = ⟨.mappingStart, p⟩ :: ts)
    (hrun : (blockMembers fuel).run { d with
      tokens := ts, handles := d.handles ++ knownHandles
      events := .mappingStart :: d.events } = (.ok (), d'))
    (hend : d'.tokens = [⟨.streamEnd, q⟩]) :
    (document (fuel + 1)).run d = (.ok (), d') := by
  have hnode : (node (fuel + 1) true false).run { d with handles := d.handles ++ knownHandles } =
      (.ok (), d') := by
    cases d
    cases hd
    exact hrun
  have hmark : (nextIs isBeforeDocument).run d = (.ok false, d) := by
    cases d
    cases hd
    rfl
  have hpeek : peek.run d' = (.ok .streamEnd, d') := by
    cases d'
    cases hend
    rfl
  have hhandles : (modify fun d => { d with handles := d.handles ++ knownHandles } :
      Drafting Unit).run d = (.ok (), { d with handles := d.handles ++ knownHandles }) := rfl
  rw [document, run_bind_of_ok hmark]
  simp only [Bool.false_eq_true, if_false]
  rw [run_bind_of_ok hhandles, run_bind_of_ok hnode, run_bind_of_ok hpeek]
  rfl

end Drafting

namespace Document

/-- A document that is read up to the end of the text is the only one. -/
theorem ofTokens_of_document {tokens : List (Placed Token)} {d : Draft}
    (hne : tokens.map (·.value) ≠ [.streamEnd])
    (hrun : (Drafting.document (4 * tokens.length + 4)).run { tokens, fault := none } =
      (.ok (), d))
    (hend : d.tokens.map (·.value) = [.streamEnd]) :
    ofTokens tokens none = { events := d.events.reverse, places := d.places } := by
  rw [ofTokens, if_neg hne]
  simp only [hrun, hend]
  rfl

/-- **The document of a text of lines is the mapping of its members.** -/
theorem ofString_flatText {ms : List Member} (hne : ms ≠ []) (hms : ∀ m ∈ ms, IsMember m)
    (n : ℕ) : ofString (String.ofList (flatText ms ++ List.replicate n '\n')) =
      { events := .mappingStart :: ms.flatMap memberEvents ++ [.mappingEnd] } := by
  obtain ⟨tokens, htext, htokens⟩ := tokens_flatText hne hms n
  obtain ⟨⟨v, p⟩, ts, rfl, hv, hts⟩ := List.map_eq_cons_iff.1 htokens
  cases hv
  have hlength : ms.length + 2 ≤ 4 * (ts.length + 1) + 3 := by
    have hcount := congrArg List.length hts
    simp [memberTokens, List.map_const'] at hcount
    omega
  obtain ⟨ts', hts', hrun⟩ := Drafting.blockMembers_memberTokens ms [.streamEnd] hlength
    ⟨ts, none, Drafting.knownHandles, [.mappingStart], [], []⟩ hts
  obtain ⟨⟨v, q⟩, ts'', rfl, hv, hrest⟩ := List.map_eq_cons_iff.1 hts'
  cases hv
  obtain rfl := List.map_eq_nil_iff.1 hrest
  have hdocument : (Drafting.document (4 * (ts.length + 1) + 4)).run
      ⟨⟨.mappingStart, p⟩ :: ts, none, [], [], [], []⟩ = _ :=
    Drafting.document_of_blockMembers rfl hrun rfl
  have hmore : (⟨.mappingStart, p⟩ :: ts).map (·.value) ≠ [.streamEnd] := by
    intro hstream
    cases (List.cons.inj hstream).1
  rw [ofString, htext]
  simp only [ofTokens_of_document hmore hdocument rfl]
  simp

end Document
end Yaml
end CourtDocket
