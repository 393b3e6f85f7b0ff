import Parlance.Proofs.Resolver.Session

/-!
What an utterance that is heard comes to. Main statement: `answer_resolve_after`, that in every run
its resolution is a walk over the whole ranking of the intents of its locale.
-/

namespace Parlance

namespace Resolver

theorem resolveUnder_of_heard {r : Resolver} {supply : Supply} {lex : Lexicon}
    {today : Calendar.Date} {utterance content : String} {explicit : Option String} {trace : Trace}
    (h : r.hear utterance explicit = .ok (content, trace)) :
    r.resolveUnder supply lex today utterance explicit =
      r.resolveContent supply lex today explicit content trace := by
  unfold resolveUnder
  rw [h]

end Resolver

namespace Session

open Resolver Ranking

variable {s : Session}

theorem Sound.exists_intents (h : s.Sound) {lex : Lexicon} (hl : lex ∈ s.snapshots)
    (locale : String) : ∃ is, (s.resolver.intentsFor locale lex).1 = .ok is := by
  obtain ⟨is, his⟩ := exists_ok_of_mapM fun w hw =>
    exists_ok_of_mem_wanted h.compiles hw lex
  rw [(h.fetched hl locale).1, his]
  exact ⟨_, rfl⟩

/-- What is said to a resolver in use comes to a walk over a whole ranking. -/
theorem Sound.answer_resolve (h : s.Sound) (today : Calendar.Date) {utterance content : String}
    {explicit : Option String} {trace : Trace} (age : Nat)
    (hheard : s.resolver.hear utterance explicit = .ok (content, trace)) :
    let locale := s.resolver.localeOf explicit content
    let u := Text.normalize (s.snapshot age) locale content
    let m := s.resolver.settings.matching
    ∃ is res t, (s.resolver.intentsFor locale (s.snapshot age)).1 = .ok is ∧
      (s.step intentsFor (.resolve today utterance explicit age)).1 = .outcome (.ok (res, t)) ∧
      IsWalk m u ⟨locale, today⟩ (rank m u is) res t := by
  intro locale u m
  obtain ⟨is, his⟩ := h.exists_intents (s.snapshot_mem age) locale
  refine ⟨is, _, _, his, ?_, walk_rank is
    { trace with locale := some locale, normalizedText := some u.text, tokens := u.tokens }⟩
  simp only [Session.step, resolveUnder_of_heard hheard]
  rw [resolveContent_of_ok his]
  rfl

/-- In every run, what is heard comes to a walk over the whole ranking of the intents of its locale,
under the lexicon as it is or as it was some changes before. -/
theorem answer_resolve_after {settings : Settings} {lex : Lexicon} {r : Resolver}
    (h : Resolver.create settings lex = .ok r) (detector : Locale.Detector) (ops : List Operation)
    (today : Calendar.Date) {utterance content : String} {explicit : Option String} {trace : Trace}
    (age : Nat)
    (hheard : ((start r detector).after intentsFor ops).resolver.hear utterance explicit =
      .ok (content, trace)) :
    let s := (start r detector).after intentsFor ops
    let locale := s.resolver.localeOf explicit content
    let u := Text.normalize (s.snapshot age) locale content
    let m := s.resolver.settings.matching
    ∃ is res t, (s.resolver.intentsFor locale (s.snapshot age)).1 = .ok is ∧
      (s.step intentsFor (.resolve today utterance explicit age)).1 = .outcome (.ok (res, t)) ∧
      IsWalk m u ⟨locale, today⟩ (rank m u is) res t :=
  ((Sound.of_create h detector).after ops).answer_resolve today age hheard

/-- The default resolver with one spec. -/
theorem answer_resolve_after_register :
    let s := (start .plain .standard).after intentsFor [.register .listedTwice]
    let locale := s.resolver.localeOf none "abre"
    let u := Text.normalize (s.snapshot 0) locale "abre"
    let m := s.resolver.settings.matching
    Resolver.create {} .empty = .ok .plain ∧ s.resolver.hear " abre" none = .ok ("abre", {}) ∧
      ∃ is res t, (s.resolver.intentsFor locale (s.snapshot 0)).1 = .ok is ∧
        (s.step intentsFor (.resolve ⟨2024, 5, 1, by decide⟩ " abre" none 0)).1 =
          .outcome (.ok (res, t)) ∧
        IsWalk m u ⟨locale, ⟨2024, 5, 1, by decide⟩⟩ (rank m u is) res t :=
  ⟨rfl, rfl, answer_resolve_after (h := (rfl : Resolver.create {} .empty = .ok .plain)) .standard
    [.register .listedTwice] _ 0 rfl⟩

end Session

end Parlance
