import LedgerEvm.Proofs.TokenService.Effects

namespace LedgerEvm

/-!
# What questions answer exactly

A question that is put to the world leaves it as it is.  Here it is said of a question exactly
when it succeeds and with which answers, so that what is known of its answers leads back to
its success.
-/

namespace TokenAction

variable
  {α β : Type}
  {world after : World}

/-- The action succeeds exactly with answers as described and leaves the world as it is. -/
def Answers
    (world : World)
    (action : TokenAction α)
    (fact : α → Prop) :
    Prop :=
  ∀ answer after, action world = .ok answer after ↔ after = world ∧ fact answer

namespace Answers

variable {fact : β → Prop}

theorem pure
    (answer : α) :
    Answers world (Pure.pure answer) (· = answer) := by
  intro other after
  constructor
  · intro done
    cases done
    exact ⟨rfl, rfl⟩
  · rintro ⟨rfl, rfl⟩
    rfl

theorem congr
    {action : TokenAction β}
    {fact' : β → Prop}
    (answers : Answers world action fact)
    (same : ∀ answer, fact answer ↔ fact' answer) :
    Answers world action fact' :=
  fun answer after => (answers answer after).trans (and_congr_right fun _ => same answer)

/-- After a question an action goes on in the same world. -/
theorem bind_eq_ok_iff
    {first : TokenAction β}
    (answers : Answers world first fact)
    {next : β → TokenAction α}
    {answer : α} :
    (first >>= next) world = .ok answer after ↔
      ∃ value, fact value ∧ next value world = .ok answer after := by
  rw [bind_eq_ok]
  constructor
  · rintro ⟨value, middle, done, goesOn⟩
    obtain ⟨rfl, holds⟩ := (answers value middle).mp done
    exact ⟨value, holds, goesOn⟩
  · rintro ⟨value, holds, goesOn⟩
    exact ⟨value, world, (answers value world).mpr ⟨rfl, holds⟩, goesOn⟩

theorem bind
    {first : TokenAction β}
    {next : β → TokenAction α}
    {facts : β → α → Prop}
    (answers : Answers world first fact)
    (goesOn : ∀ value, fact value → Answers world (next value) (facts value)) :
    Answers world (first >>= next) fun answer => ∃ value, fact value ∧ facts value answer := by
  intro answer after
  rw [bind_eq_ok_iff answers]
  constructor
  · rintro ⟨value, holds, done⟩
    obtain ⟨same, holds'⟩ := (goesOn value holds answer after).mp done
    exact ⟨same, value, holds, holds'⟩
  · rintro ⟨same, value, holds, holds'⟩
    exact ⟨value, holds, (goesOn value holds answer after).mpr ⟨same, holds'⟩⟩

theorem ask
    (question : World → Except StateError α) :
    Answers world (TokenAction.ask question) fun answer => question world = .ok answer := by
  intro answer after
  unfold TokenAction.ask
  cases asked : question world with
  | error error => exact iff_of_false nofun nofun
  | ok found =>
      constructor
      · intro done
        cases done
        exact ⟨rfl, rfl⟩
      · rintro ⟨rfl, same⟩
        cases same
        rfl

theorem refuse
    (code : ResponseCode) :
    Answers world (TokenAction.refuse code : TokenAction α) fun _ => False :=
  fun _ _ => iff_of_false nofun nofun

theorem ensure
    (condition : Bool)
    (code : ResponseCode) :
    Answers world (TokenAction.ensure condition code) fun _ => condition = true := by
  unfold TokenAction.ensure
  split
  · rename_i holds
    exact (pure ()).congr fun _ => iff_of_true rfl holds
  · rename_i fails
    exact (refuse code).congr fun _ => iff_of_false id fails

/-- Questions asked of a list are answered one by one. -/
theorem mapM
    {γ : Type}
    {fact : β → γ → Prop}
    {view : γ → α}
    {question : β → TokenAction α}
    (answers :
      ∀ item, Answers world (question item) fun answer =>
        ∃ found, fact item found ∧ answer = view found)
    (items : List β) :
    Answers world (items.mapM question) fun answer =>
      ∃ found, List.Forall₂ fact items found ∧ answer = found.map view := by
  induction items with
  | nil =>
      refine (pure []).congr fun answer => ?_
      simp
  | cons item rest inductionHypothesis =>
      rw [List.mapM_cons]
      refine ((answers item).bind fun _ _ =>
        inductionHypothesis.bind fun _ _ => pure _).congr fun answer => ?_
      simp only [List.forall₂_cons_left_iff]
      constructor
      · rintro ⟨_, ⟨found, first, rfl⟩, _, ⟨others, after, rfl⟩, rfl⟩
        exact ⟨found :: others, ⟨found, others, first, after, rfl⟩, rfl⟩
      · rintro ⟨_, ⟨found, others, first, after, rfl⟩, rfl⟩
        exact ⟨_, ⟨found, first, rfl⟩, _, ⟨others, after, rfl⟩, rfl⟩

/-- Checks made of a list are passed one by one. -/
theorem forM
    {γ : Type}
    {fact : β → γ → Prop}
    {check : β → TokenAction PUnit}
    (answers : ∀ item, Answers world (check item) fun _ => ∃ found, fact item found)
    (items : List β) :
    Answers world (items.forM check) fun _ => ∃ found, List.Forall₂ fact items found := by
  induction items with
  | nil =>
      exact (pure ()).congr fun _ => iff_of_true rfl ⟨[], .nil⟩
  | cons item rest inductionHypothesis =>
      refine ((answers item).bind fun _ _ => inductionHypothesis).congr fun _ => ?_
      simp only [List.forall₂_cons_left_iff]
      constructor
      · rintro ⟨_, ⟨found, first⟩, others, after⟩
        exact ⟨found :: others, found, others, first, after, rfl⟩
      · rintro ⟨_, found, others, first, after, rfl⟩
        exact ⟨(), ⟨found, first⟩, others, after⟩

end Answers

/-! ## The questions of the token service -/

theorem answers_require
    (result : Option α)
    (code : ResponseCode) :
    Answers world (require result code) fun value => result = some value := by
  cases result with
  | some value => exact (Answers.pure value).congr fun _ => by rw [Option.some.injEq, eq_comm]
  | none => exact (Answers.refuse code).congr fun _ => iff_of_false id nofun

theorem answers_knownToken
    (address : Address) :
    Answers world (knownToken address) fun token => world.token address = .ok (some token) := by
  refine ((Answers.ask _).bind fun found _ =>
    (?_ : Answers world _ fun token => found = some token)).congr fun token => ?_
  · cases found with
    | some token =>
        exact (Answers.pure token).congr fun _ => by rw [Option.some.injEq, eq_comm]
    | none => exact fun _ _ => iff_of_false nofun nofun
  · exact exists_eq_right

theorem answers_relationship
    (account token : Address) :
    Answers world (relationship account token) fun holding =>
      world.relationship account token = .ok (some holding) :=
  ((Answers.ask _).bind fun found _ => answers_require found _).congr fun _ => exists_eq_right

theorem answers_ensureSubject
    (address : Address) :
    Answers world (ensureSubject address) fun _ => ∃ subject, world.HasSubject address subject := by
  refine ((Answers.ask _).bind fun found _ =>
    (?_ : Answers world _ fun _ =>
      ∃ subject, found = some subject ∧ subject.isToken = false)).congr fun _ => ?_
  · cases found with
    | some subject => exact (Answers.ensure _ _).congr fun _ => by simp
    | none => exact fun _ _ => iff_of_false nofun nofun
  · constructor
    · rintro ⟨_, reached, subject, rfl, noToken⟩
      exact ⟨subject, reached, noToken⟩
    · rintro ⟨subject, reached, noToken⟩
      exact ⟨_, reached, subject, rfl, noToken⟩

end TokenAction

end LedgerEvm
