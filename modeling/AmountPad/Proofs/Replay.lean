import Mathlib
import AmountPad.Proofs.Terminal.App
import AmountPad.Replay

/-!
# Replays are all or nothing

A replay reads all tokens before it runs any, and then runs them all. What comes of it can be said
token by token: the first token without a meaning is the whole result, and where there is none, each
token has one step, which shows what the tokens up to it have entered.

* `Replay.meaning?` — what a token means beside the labels of a layout;
* `Replay.FirstMeaningless` — a token is the first of a list that means nothing;
* `Replay.Recounts` — steps tell of tokens what has to be told.

Main results:

* `Replay.readTokens_of_meaningful`, `Replay.readTokens_of_firstMeaningless` — how tokens are read;
* `Replay.getElem?_steps` — each step of a run, by its place;
* `Replay.recounts_steps` — the steps of a run tell what has to be told;
* `Replay.Recounts.isPrefix` — more tokens change no step of those before them;
* `Replay.ofSettings_all_or_nothing` — the whole of it for all settings and tokens.
-/

namespace AmountPad.Replay

open Terminal

/-! ## What tokens mean -/

/-- What a token means: a label stands for itself, also where it spells a control; the names of the
controls are read whatever the case of their letters. -/
def meaning? (labels : List String) (token : String) : Option Action :=
  if token ∈ labels then some (.append token)
  else if token.toLower ∈ ["clear", "c"] then some .clear
  else if token.toLower ∈ ["backspace", "bs", "<"] then some .backspace
  else none

/-- A token of a list means nothing, and every token before it means something. -/
def FirstMeaningless (labels : List String) (token : String) (tokens : List String) : Prop :=
  ∃ before after, tokens = before ++ token :: after ∧
    (∀ t ∈ before, meaning? labels t ≠ none) ∧ meaning? labels token = none

/-- Steps tell of tokens what has to be told: one step for each token in order, with what the token
means, whether the controls permit that, and what has been entered up to it. -/
structure Recounts (labels : List String) (wired : Controls) (tokens : List String)
    (steps : List Step) : Prop where
  tokens_eq : steps.map Step.token = tokens
  action_eq : ∀ step ∈ steps, meaning? labels step.token = some step.action
  applied_eq : ∀ step ∈ steps, step.applied = wired.permits step.action
  content_eq : ∀ k step, steps[k]? = some step →
    step.content.toList = entered wired ((steps.take (k + 1)).map Step.action)

/-- The tokens of controls are read in capitals and in small letters. -/
theorem controlOfToken?_eq (token : String) :
    (Layout.controlOfToken? token).map Action.ofControl =
      if token.toLower ∈ ["clear", "c"] then some .clear
      else if token.toLower ∈ ["backspace", "bs", "<"] then some .backspace
      else none := by
  unfold Layout.controlOfToken?
  split
  · next h => rw [h]; rfl
  · next h => rw [h]; rfl
  · next h => rw [h]; rfl
  · next h => rw [h]; rfl
  · next h => rw [h]; rfl
  · next hclear hc hbackspace hbs hless =>
    -- none of the five words, so that neither list has the token
    have hnotClear : token.toLower ∉ ["clear", "c"] := by
      simp only [List.mem_cons, List.not_mem_nil, or_false]
      exact fun h => h.elim hclear hc
    have hnotBackspace : token.toLower ∉ ["backspace", "bs", "<"] := by
      simp only [List.mem_cons, List.not_mem_nil, or_false]
      exact fun h => h.elim hbackspace fun h => h.elim hbs hless
    rw [if_neg hnotClear, if_neg hnotBackspace]
    rfl

/-- The reader of tokens finds their meaning. -/
theorem readToken?_eq_meaning? (layout : Layout) (token : String) :
    layout.readToken? token = meaning? layout.labels token := by
  have haction := Layout.map_action_findLabel? layout token
  rw [Layout.readToken?, controlOfToken?_eq, meaning?]
  cases hf : layout.findLabel? token with
  | none =>
    rw [if_neg (Layout.findLabel?_eq_none_iff.mp hf)]
  | some key =>
    rw [hf, Option.map_some] at haction
    split at haction
    · next hm =>
      rw [if_pos hm, ← haction]
    · exact nomatch haction

/-! ## Reading tokens -/

section

variable {layout : Layout}

/-- Behind a token with a meaning, the others decide. -/
theorem readTokens_cons_of_eq_some {token : String} {action : Action}
    (h : meaning? layout.labels token = some action) (rest : List String) :
    readTokens layout (token :: rest) = (readTokens layout rest).map (action :: ·) := by
  have hread : layout.readToken token = .ok action := by
    rw [Layout.readToken, readToken?_eq_meaning?, h]
  rw [readTokens, List.mapM_cons, hread, ← readTokens]
  cases readTokens layout rest <;> rfl

/-- A token without a meaning is what reading fails with, whatever stands behind it. -/
theorem readTokens_cons_of_eq_none {token : String} (h : meaning? layout.labels token = none)
    (rest : List String) :
    readTokens layout (token :: rest) = .error (.unknownToken token) := by
  have hread : layout.readToken token = .error (.unknownToken token) := by
    rw [Layout.readToken, readToken?_eq_meaning?, h]
  rw [readTokens, List.mapM_cons, hread]
  rfl

/-- Tokens that all mean something are read as what they mean. -/
theorem readTokens_of_meaningful {tokens : List String}
    (h : ∀ t ∈ tokens, meaning? layout.labels t ≠ none) :
    readTokens layout tokens = .ok (tokens.filterMap (meaning? layout.labels)) := by
  induction tokens with
  | nil => rfl
  | cons token rest ih =>
    obtain ⟨action, haction⟩ := Option.ne_none_iff_exists'.mp (h token List.mem_cons_self)
    rw [readTokens_cons_of_eq_some haction, ih fun t ht => h t (List.mem_cons_of_mem _ ht),
      List.filterMap_cons_some haction]
    rfl

/-- The first token that means nothing is what comes of reading tokens. -/
theorem readTokens_of_firstMeaningless {token : String} {tokens : List String}
    (h : FirstMeaningless layout.labels token tokens) :
    readTokens layout tokens = .error (.unknownToken token) := by
  obtain ⟨before, after, rfl, hbefore, hnone⟩ := h
  induction before with
  | nil => exact readTokens_cons_of_eq_none hnone after
  | cons t rest ih =>
    obtain ⟨action, haction⟩ := Option.ne_none_iff_exists'.mp (hbefore t List.mem_cons_self)
    rw [List.cons_append, readTokens_cons_of_eq_some haction,
      ih fun t' ht' => hbefore t' (List.mem_cons_of_mem _ ht')]
    rfl

end

/-- Either all tokens mean something, or one of them is the first that does not. -/
theorem meaningful_or_exists_firstMeaningless (labels tokens : List String) :
    (∀ t ∈ tokens, meaning? labels t ≠ none) ∨
      ∃ token, FirstMeaningless labels token tokens := by
  cases hf : tokens.find? (meaning? labels · == none) with
  | none =>
    left
    simpa using hf
  | some token =>
    right
    obtain ⟨hnone, before, after, hsplit, hbefore⟩ := List.find?_eq_some_iff_append.mp hf
    refine ⟨token, before, after, hsplit, fun t ht => ?_, by simpa using hnone⟩
    simpa [Option.isSome_iff_ne_none] using hbefore t ht

/-! ## Running actions -/

attribute [ext] Step

/-- Each step of a run, by its place: it shows what the actions up to it have entered. -/
theorem getElem?_steps {layout : Layout} {wired : Controls} {chars : List Char} {app : App}
    (h : app.Holds layout wired chars) (pairs : List (String × Action)) (k : Nat) :
    (steps app pairs)[k]? = pairs[k]?.map fun (token, action) =>
      ⟨token, action, wired.permits action,
        String.ofList (((pairs.take (k + 1)).map Prod.snd).foldl (enter wired) chars)⟩ := by
  induction pairs generalizing app chars k with
  | nil => rfl
  | cons pair rest ih =>
    obtain ⟨token, action⟩ := pair
    -- the app behind this step is where the others start
    have hnext := h.apply action
    cases k with
    | zero =>
      have htext : (app.apply action).1.amount.text = String.ofList (enter wired chars action) := by
        rw [← hnext.entered, String.ofList_toList]
      simp [steps, App.apply_snd, h.controls_eq, htext]
    | succ k =>
      rw [steps, List.getElem?_cons_succ, List.getElem?_cons_succ]
      exact ih hnext k

theorem map_action_steps (app : App) (pairs : List (String × Action)) :
    (steps app pairs).map Step.action = pairs.map Prod.snd := by
  induction pairs generalizing app with
  | nil => rfl
  | cons pair rest ih => simp [steps, ih]

/-- Tokens that all mean something, each with what it means. -/
theorem zip_filterMap_meaning? {labels tokens : List String}
    (h : ∀ t ∈ tokens, meaning? labels t ≠ none) :
    ∀ pair ∈ tokens.zip (tokens.filterMap (meaning? labels)),
      meaning? labels pair.1 = some pair.2 := by
  induction tokens with
  | nil => exact fun pair hp => absurd hp List.not_mem_nil
  | cons token rest ih =>
    obtain ⟨action, haction⟩ := Option.ne_none_iff_exists'.mp (h token List.mem_cons_self)
    rw [List.filterMap_cons_some haction, List.zip_cons_cons]
    intro pair hp
    rcases List.mem_cons.mp hp with rfl | hp
    · exact haction
    · exact ih (fun t ht => h t (List.mem_cons_of_mem _ ht)) pair hp

theorem length_filterMap_meaning? {labels tokens : List String}
    (h : ∀ t ∈ tokens, meaning? labels t ≠ none) :
    (tokens.filterMap (meaning? labels)).length = tokens.length := by
  rw [List.length_filterMap_eq_countP, List.countP_eq_length]
  exact fun t ht => Option.isSome_iff_ne_none.mpr (h t ht)

/-- The steps of tokens that all mean something tell what has to be told of them. -/
theorem recounts_steps {layout : Layout} {wired : Controls} {app : App}
    (hstart : app.Holds layout wired []) {labels tokens : List String}
    (h : ∀ t ∈ tokens, meaning? labels t ≠ none) :
    Recounts labels wired tokens
      (steps app (tokens.zip (tokens.filterMap (meaning? labels)))) := by
  have hpairs := zip_filterMap_meaning? h
  have hget := getElem?_steps hstart (tokens.zip (tokens.filterMap (meaning? labels)))
  generalize hp : tokens.zip (tokens.filterMap (meaning? labels)) = pairs at hpairs hget ⊢
  -- a step comes from the pair at its place
  have hstep : ∀ k step, (steps app pairs)[k]? = some step → ∃ pair ∈ pairs,
      (⟨pair.1, pair.2, wired.permits pair.2,
        String.ofList (entered wired ((pairs.take (k + 1)).map Prod.snd))⟩ : Step) = step := by
    intro k step hk
    rw [hget, Option.map_eq_some_iff] at hk
    obtain ⟨pair, hk, heq⟩ := hk
    exact ⟨pair, List.mem_of_getElem? hk, heq⟩
  refine ⟨?tokens, ?action, ?applied, ?content⟩
  case tokens =>
    rw [map_token_steps, ← hp]
    exact List.map_fst_zip (by rw [length_filterMap_meaning? h])
  case action =>
    intro step hs
    obtain ⟨k, hk⟩ := List.mem_iff_getElem?.mp hs
    obtain ⟨pair, hpair, rfl⟩ := hstep k step hk
    exact hpairs pair hpair
  case applied =>
    intro step hs
    obtain ⟨k, hk⟩ := List.mem_iff_getElem?.mp hs
    obtain ⟨pair, -, rfl⟩ := hstep k step hk
    rfl
  case content =>
    intro k step hk
    obtain ⟨pair, -, rfl⟩ := hstep k step hk
    rw [String.toList_ofList, List.map_take, List.map_take, map_action_steps]

namespace Recounts

variable {labels tokens : List String} {wired : Controls} {found : List Step}

/-- The actions of the steps are the meanings of the tokens. -/
theorem map_action (h : Recounts labels wired tokens found) :
    found.map Step.action = tokens.filterMap (meaning? labels) := by
  rw [← h.tokens_eq, List.filterMap_map, ← List.filterMap_eq_map]
  refine List.filterMap_congr fun step hs => ?_
  exact (h.action_eq step hs).symm

/-- The first steps tell of the first tokens what has to be told. -/
theorem take (h : Recounts labels wired tokens found) (n : Nat) :
    Recounts labels wired (tokens.take n) (found.take n) where
  tokens_eq := by rw [List.map_take, h.tokens_eq]
  action_eq := fun step hs => h.action_eq step (List.mem_of_mem_take hs)
  applied_eq := fun step hs => h.applied_eq step (List.mem_of_mem_take hs)
  content_eq := by
    intro k step hk
    rw [List.getElem?_take] at hk
    split at hk
    · next hlt => rw [h.content_eq k step hk, List.take_take, Nat.min_eq_left hlt]
    · exact nomatch hk

/-- There is only one thing to be told of tokens. -/
theorem unique (h : Recounts labels wired tokens found) {other : List Step}
    (ho : Recounts labels wired tokens other) : found = other := by
  -- the parts of a step follow from the tokens, one after the other
  have hlength : found.length = other.length := by
    rw [← List.length_map Step.token, h.tokens_eq, ← ho.tokens_eq, List.length_map]
  refine List.ext_getElem hlength fun k hk hk' => ?_
  have htoken : found[k].token = other[k].token := by
    have hmap := List.getElem_of_eq (h.tokens_eq.trans ho.tokens_eq.symm) (i := k) (by simpa)
    rwa [List.getElem_map, List.getElem_map] at hmap
  have haction : found[k].action = other[k].action := by
    have hmeaning := h.action_eq _ (List.getElem_mem hk)
    rw [htoken, ho.action_eq _ (List.getElem_mem hk')] at hmeaning
    exact (Option.some.inj hmeaning).symm
  have happlied : found[k].applied = other[k].applied := by
    rw [h.applied_eq _ (List.getElem_mem hk), ho.applied_eq _ (List.getElem_mem hk'), haction]
  have hcontent : found[k].content = other[k].content := by
    refine String.toList_injective ?_
    rw [h.content_eq k _ (List.getElem?_eq_getElem hk),
      ho.content_eq k _ (List.getElem?_eq_getElem hk'), List.map_take, List.map_take,
      h.map_action, ho.map_action]
  exact Step.ext htoken haction happlied hcontent

/-- More tokens change no step of those before them. -/
theorem isPrefix (h : Recounts labels wired tokens found) {more : List String} {all : List Step}
    (ha : Recounts labels wired (tokens ++ more) all) : found <+: all := by
  -- the longer run, cut off, tells of the shorter list
  have htake := ha.take tokens.length
  rw [List.take_left'] at htake
  · rw [h.unique htake]
    exact List.take_prefix _ all
  · rfl

/-- What the display shows in the end has been entered by all tokens. -/
theorem toList_finalContent (h : Recounts labels wired tokens found) :
    (finalContent found).toList = entered wired (tokens.filterMap (meaning? labels)) := by
  rw [← h.map_action, finalContent]
  cases hlast : found.getLast? with
  | none =>
    rw [List.getLast?_eq_none_iff.mp hlast]
    simp [entered]
  | some step =>
    rw [List.getLast?_eq_getElem?] at hlast
    -- all tokens come before the end of the last step
    have hpos : 0 < found.length := by
      obtain ⟨hlt, -⟩ := List.getElem?_eq_some_iff.mp hlast
      exact Nat.zero_lt_of_lt hlt
    rw [h.content_eq _ step hlast, Nat.sub_add_cancel hpos, List.take_length]

end Recounts

/-! ## Replays over settings -/

/-- Settings without a layout fail with its flaw, whatever the tokens are. -/
theorem ofSettings_of_flaw {s : Settings} {flaw : Layout.Flaw}
    (h : Layout.ofRows s.rows = .error flaw) (tokens : List String) :
    ofSettings s tokens = .error (.invalidLayout flaw) := by
  rw [ofSettings, App.ofSettings_eq_error_iff.mpr ⟨flaw, h, rfl⟩]
  rfl

section

variable {s : Settings} {layout : Layout} (hl : Layout.ofRows s.rows = .ok layout)
include hl

theorem ofSettings_eq_run (tokens : List String) :
    ofSettings s tokens = run (.start layout s.policy) tokens := by
  rw [ofSettings, App.ofSettings_eq_ok_iff.mpr ⟨layout, hl, rfl⟩]
  rfl

/-- Where all tokens have a meaning, the replay takes a step for each. -/
theorem ofSettings_of_meaningful {tokens : List String}
    (h : ∀ t ∈ tokens, meaning? layout.labels t ≠ none) : ofSettings s tokens =
      .ok (steps (.start layout s.policy)
        (tokens.zip (tokens.filterMap (meaning? layout.labels)))) := by
  rw [ofSettings_eq_run hl, run, App.start, readTokens_of_meaningful h]
  rfl

/-- Where some token has none, the replay fails with the first of them. -/
theorem ofSettings_of_firstMeaningless {token : String} {tokens : List String}
    (h : FirstMeaningless layout.labels token tokens) :
    ofSettings s tokens = .error (.unknownToken token) := by
  rw [ofSettings_eq_run hl, run, App.start, readTokens_of_firstMeaningless h]
  rfl

/-- A replay goes through if every token means something. -/
theorem exists_ofSettings_eq_ok_iff {tokens : List String} :
    (∃ found, ofSettings s tokens = .ok found) ↔
      ∀ t ∈ tokens, meaning? layout.labels t ≠ none := by
  constructor
  · rintro ⟨found, hfound⟩
    rcases meaningful_or_exists_firstMeaningless layout.labels tokens with h | ⟨token, h⟩
    · exact h
    · rw [ofSettings_of_firstMeaningless hl h] at hfound
      exact nomatch hfound
  · exact fun h => ⟨_, ofSettings_of_meaningful hl h⟩

/-- A replay fails with the first token that means nothing. -/
theorem ofSettings_eq_unknownToken_iff {tokens : List String} {token : String} :
    ofSettings s tokens = .error (.unknownToken token) ↔
      FirstMeaningless layout.labels token tokens := by
  constructor
  · intro hfail
    rcases meaningful_or_exists_firstMeaningless layout.labels tokens with h | ⟨first, h⟩
    · rw [ofSettings_of_meaningful hl h] at hfail
      exact nomatch hfail
    · rw [ofSettings_of_firstMeaningless hl h] at hfail
      obtain rfl : first = token := by simpa using hfail
      exact h
  · exact ofSettings_of_firstMeaningless hl

/-- The steps of a replay recount the tokens from a fresh app on. -/
theorem recounts_of_ofSettings {tokens : List String} {found : List Step}
    (h : ofSettings s tokens = .ok found) :
    Recounts layout.labels (App.controlsUnder s.policy) tokens found := by
  have hmeaningful := (exists_ofSettings_eq_ok_iff hl).mp ⟨found, h⟩
  rw [ofSettings_of_meaningful hl hmeaningful] at h
  obtain rfl := Except.ok.inj h
  exact recounts_steps (App.start_holds layout s.policy) hmeaningful

end

/-- A replay fails with a flaw exactly if the rows have it; no token is looked at then. -/
theorem ofSettings_eq_invalidLayout_iff {s : Settings} {flaw : Layout.Flaw}
    {tokens : List String} : ofSettings s tokens = .error (.invalidLayout flaw) ↔
      Layout.ofRows s.rows = .error flaw := by
  cases hl : Layout.ofRows s.rows with
  | error flaw' =>
    rw [ofSettings_of_flaw hl]
    simp
  | ok layout =>
    rcases meaningful_or_exists_firstMeaningless layout.labels tokens with h | ⟨token, h⟩
    · rw [ofSettings_of_meaningful hl h]
      simp
    · rw [ofSettings_of_firstMeaningless hl h]
      simp

/-- **Replays are all or nothing.** For all settings and tokens: rows that make no layout fail with
their flaw, and only they do. Over a layout, a replay fails with a token if that is the first that
means nothing, and it goes through if there is none. Its steps then tell of the tokens what has to
be told; they are the first steps of every longer list of tokens that goes through; and the last of
them shows what an app over the same settings holds after the actions that the tokens mean. -/
theorem ofSettings_all_or_nothing (s : Settings) (tokens : List String) :
    (∀ flaw, ofSettings s tokens = .error (.invalidLayout flaw) ↔
      Layout.ofRows s.rows = .error flaw) ∧
    ∀ layout, Layout.ofRows s.rows = .ok layout →
      (∀ token, ofSettings s tokens = .error (.unknownToken token) ↔
        FirstMeaningless layout.labels token tokens) ∧
      ((∃ found, ofSettings s tokens = .ok found) ↔
        ∀ t ∈ tokens, meaning? layout.labels t ≠ none) ∧
      ∀ found, ofSettings s tokens = .ok found →
        Recounts layout.labels (App.controlsUnder s.policy) tokens found ∧
        (∀ more all, ofSettings s (tokens ++ more) = .ok all → found <+: all) ∧
        ∃ app, App.ofSettings s = .ok app ∧ finalContent found =
          (app.applyAll (tokens.filterMap (meaning? layout.labels))).amount.text := by
  refine ⟨fun flaw => ofSettings_eq_invalidLayout_iff, fun layout hl =>
    ⟨fun token => ofSettings_eq_unknownToken_iff hl, exists_ofSettings_eq_ok_iff hl,
      fun found hfound => ?_⟩⟩
  have hrecounts := recounts_of_ofSettings hl hfound
  refine ⟨hrecounts, fun more all hall => hrecounts.isPrefix (recounts_of_ofSettings hl hall),
    .start layout s.policy, App.ofSettings_eq_ok_iff.mpr ⟨layout, hl, rfl⟩, ?_⟩
  -- the content behind the last step is that of an app which ran all actions
  have hholds := (App.start_holds layout s.policy).applyAll
    (tokens.filterMap (meaning? layout.labels))
  refine String.toList_injective ?_
  rw [hrecounts.toList_finalContent, hholds.entered, entered]

/-- Settings with a label that spells a control, and with no controls. -/
def spelledSettings : Settings := { rows := [["C", "1"]], policy := .disabled }

theorem ofSettings_all_or_nothing_spelled :
    (∃ found, ofSettings spelledSettings ["C", "1", "c"] = .ok found ∧
      found.map Step.token = ["C", "1", "c"] ∧ (finalContent found).toList = ['C', '1']) ∧
    ofSettings spelledSettings ["C", "x", "y"] = .error (.unknownToken "x") := by
  have hl : Layout.ofRows spelledSettings.rows =
      .ok ⟨Layout.gridKeys 0 [["C", "1"]], 1, 2⟩ := by rfl
  obtain ⟨-, hok, hsteps⟩ :=
    (ofSettings_all_or_nothing spelledSettings ["C", "1", "c"]).2 _ hl
  obtain ⟨hunknown, -, -⟩ :=
    (ofSettings_all_or_nothing spelledSettings ["C", "x", "y"]).2 _ hl
  obtain ⟨found, hfound⟩ := hok.mpr (by decide +kernel)
  obtain ⟨hrecounts, -, -⟩ := hsteps found hfound
  refine ⟨⟨found, hfound, hrecounts.tokens_eq, ?_⟩, (hunknown "x").mpr ?_⟩
  · rw [hrecounts.toList_finalContent]
    decide +kernel
  · exact ⟨["C"], ["y"], rfl, by decide +kernel, by decide +kernel⟩

end AmountPad.Replay
