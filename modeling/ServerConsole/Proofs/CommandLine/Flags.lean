import ServerConsole.CommandLine
import ServerConsole.Proofs.Outcome

/-!
# The flags of a command line

What the words of a command line say is told without a draft: each flag has the value that stands with it or
behind it, and all that stands behind a separator names servers.

* `given`          the flags that words give values to, in order;
* `flag?`, `count?`  the value that words give a flag, and the number of lines to keep;
* `Draft.Adds`     the flags that a draft holds more than another one;
* `adds_takeAll`   words that are taken add what they give;
* `parse_flags`    the arguments of a command line are what its words give, and what stands in for the rest.
-/

namespace ServerConsole.Arguments

/-! ## definitions -/

/-- the flag that a word names, and the value that stands with it -/
def flagOf? : Word → Option (Flag × Option String)
  | .long name value =>
    match LongName.ofText? name with
    | some (.flag flag) => some (flag, value)
    | _ => none
  | .short 'c' [] => some (.config, none)
  | .short 'c' ('=' :: cs) => some (.config, some (String.ofList cs))
  | .short 'c' cs => some (.config, some (String.ofList cs))
  | _ => none

/-- flags with their values; one that waits for its value has the first word -/
def given : Option Flag → List String → List (Flag × String)
  | _, [] => []
  | some flag, s :: more => (flag, s) :: given none more
  | none, s :: more =>
    match Word.ofText s with
    | .separator => []
    | word =>
      match flagOf? word with
      | none => given none more
      | some (flag, none) => given (some flag) more
      | some (flag, some value) => (flag, value) :: given none more

def textOf (flag : Flag) (p : Flag × String) : Option String := if p.1 = flag then some p.2 else none

def countOf (p : Flag × String) : Option UInt64 := (textOf .scrollback p).bind Draft.readCount?

/-- the value that words give a flag -/
def flag? (words : List String) (flag : Flag) : Option String := (given none words).findSome? (textOf flag)

/-- the number of lines that words ask for -/
def count? (words : List String) : Option UInt64 := (given none words).findSome? countOf

namespace Draft

/-- the flag that was read last, with its value -/
def due (d : Draft) : List (Flag × String) :=
  match d.pending with
  | .value flag s => [(flag, s)]
  | _ => []

/-- the flag whose value comes next -/
def awaited? (d : Draft) : Option Flag :=
  match d.pending with
  | .awaiting flag => some flag
  | _ => none

/-- the flags of a draft are those of another one and more -/
structure Adds (d e : Draft) (ps : List (Flag × String)) : Prop where
  panelUrl : e.panelUrl = d.panelUrl.or (ps.findSome? (textOf .panelUrl))
  token : e.token = d.token.or (ps.findSome? (textOf .token))
  config : e.config = d.config.or (ps.findSome? (textOf .config))
  scrollback : e.scrollback = d.scrollback.or (ps.findSome? countOf)

/-! ## words -/

section
variable {d e f : Draft} {flag : Flag} {s : String} {ps qs : List (Flag × String)}

theorem adds_nil (d : Draft) (server : Option ServerId) (pending : Pending) (named : Bool) :
    d.Adds { d with server := server, pending := pending, named := named } [] :=
  ⟨Option.or_none.symm, Option.or_none.symm, Option.or_none.symm, Option.or_none.symm⟩

theorem Adds.trans (h : d.Adds e ps) (h' : e.Adds f qs) : d.Adds f (ps ++ qs) where
  panelUrl := by rw [h'.panelUrl, h.panelUrl, List.findSome?_append, Option.or_assoc]
  token := by rw [h'.token, h.token, List.findSome?_append, Option.or_assoc]
  config := by rw [h'.config, h.config, List.findSome?_append, Option.or_assoc]
  scrollback := by rw [h'.scrollback, h.scrollback, List.findSome?_append, Option.or_assoc]

theorem adds_give (h : d.give flag s = .ok e) : d.Adds e [(flag, s)] ∧ e.pending = d.pending := by
  unfold give at h
  split at h
  · cases h
  next hh =>
  have hn : ∀ {α : Type} {x : Option α}, ¬ x.isSome = true → x = none := Option.not_isSome_iff_eq_none.mp
  cases flag with
  | panelUrl =>
    obtain rfl := Except.ok.inj h
    exact ⟨⟨by rw [hn hh]; rfl, Option.or_none.symm, Option.or_none.symm, Option.or_none.symm⟩, rfl⟩
  | token =>
    obtain rfl := Except.ok.inj h
    exact ⟨⟨Option.or_none.symm, by rw [hn hh]; rfl, Option.or_none.symm, Option.or_none.symm⟩, rfl⟩
  | config =>
    dsimp only at h
    split at h
    · cases h
    · obtain rfl := Except.ok.inj h
      exact ⟨⟨Option.or_none.symm, Option.or_none.symm, by rw [hn hh]; rfl, Option.or_none.symm⟩, rfl⟩
  | scrollback =>
    dsimp only at h
    split at h
    · next n hr =>
      obtain rfl := Except.ok.inj h
      have hc : countOf (.scrollback, s) = some n := hr
      refine ⟨⟨Option.or_none.symm, Option.or_none.symm, Option.or_none.symm, ?_⟩, rfl⟩
      rw [hn hh, List.findSome?_cons, hc]
      rfl
    · cases h

theorem adds_settle (h : d.settle = .ok e) :
    d.Adds e d.due ∧ e.pending = .nothing ∧ d.awaited? = none := by
  obtain ⟨server, panelUrl, token, config, scrollback, pending, named⟩ := d
  cases pending with
  | nothing =>
    obtain rfl := Except.ok.inj h
    exact ⟨adds_nil .., rfl, rfl⟩
  | awaiting flag => cases h
  | value flag s =>
    obtain ⟨ha, he⟩ := adds_give h
    exact ⟨(adds_nil _ server .nothing named).trans ha, he, rfl⟩
  | server s =>
    unfold settle at h
    dsimp only at h
    split at h
    · obtain rfl := Except.ok.inj h
      exact ⟨adds_nil .., rfl, rfl⟩
    · cases h

theorem due_of_nothing (h : d.pending = .nothing) : d.due = [] ∧ d.awaited? = none := by
  unfold due awaited?
  rw [h]
  exact ⟨rfl, rfl⟩

theorem due_of_awaiting (h : d.pending = .awaiting flag) : d.due = [] ∧ d.awaited? = some flag := by
  unfold due awaited?
  rw [h]
  exact ⟨rfl, rfl⟩

theorem adds_takeFlag {value : Option String} (h : d.takeFlag flag value = .ok e) :
    d.Adds e (d.due ++ value.toList.map (flag, ·)) ∧ d.awaited? = none ∧ e.due = [] ∧
      e.awaited? = if value.isSome then none else some flag := by
  obtain ⟨m, hs, h⟩ := bind_eq_ok h
  obtain ⟨ha, hp, hn⟩ := adds_settle hs
  cases value with
  | none =>
    obtain rfl := Except.ok.inj h
    exact ⟨ha.trans (m.adds_nil ..), hn, rfl, rfl⟩
  | some s =>
    obtain ⟨hg, hpe⟩ := adds_give h
    obtain ⟨hd, hw⟩ := due_of_nothing (hpe.trans hp)
    exact ⟨ha.trans hg, hn, hd, hw⟩

theorem adds_takeServer (h : d.takeServer s = .ok e) :
    d.Adds e d.due ∧ d.awaited? = none ∧ e.due = [] ∧ e.awaited? = none := by
  unfold takeServer at h
  split at h
  · cases h
  · obtain ⟨m, hs, h⟩ := bind_eq_ok h
    obtain ⟨ha, -, hn⟩ := adds_settle hs
    obtain rfl := Except.ok.inj h
    have hm := ha.trans (m.adds_nil m.server (.server s) true)
    rw [List.append_nil] at hm
    exact ⟨hm, hn, rfl, rfl⟩

/-- behind a separator nothing is given any more -/
theorem adds_takeServers {words : List String} (h : words.foldlM takeServer d >>= settle = .ok e) :
    d.Adds e d.due ∧ d.awaited? = none := by
  induction words generalizing d with
  | nil =>
    obtain ⟨ha, -, hn⟩ := adds_settle h
    exact ⟨ha, hn⟩
  | cons s words ih =>
    rw [List.foldlM_cons, bind_assoc] at h
    obtain ⟨m, hm, h⟩ := bind_eq_ok h
    obtain ⟨ha, hn, hd, -⟩ := adds_takeServer hm
    have hr := (ih h).1
    rw [hd] at hr
    have ht := ha.trans hr
    rw [List.append_nil] at ht
    exact ⟨ht, hn⟩

/-- a word with two hyphens that is taken names a flag -/
theorem flag_of_takeLong {name : String} {value : Option String} (h : d.takeLong name value = .ok e) :
    ∃ flag, flagOf? (.long name value) = some (flag, value) ∧ d.takeFlag flag value = .ok e := by
  unfold takeLong at h
  split at h
  · cases h
  · next flag hl =>
    refine ⟨flag, ?_, h⟩
    unfold flagOf?
    dsimp only
    rw [hl]
  · cases h
  · obtain ⟨_, -, h⟩ := bind_eq_ok h
    cases h
  · obtain ⟨_, -, h⟩ := bind_eq_ok h
    cases h

theorem flag_of_takeShort {letter : Char} {rest : List Char} (h : d.takeShort letter rest = .ok e) :
    ∃ flag value, flagOf? (.short letter rest) = some (flag, value) ∧ d.takeFlag flag value = .ok e := by
  unfold takeShort at h
  split at h
  · exact ⟨_, _, rfl, h⟩
  · exact ⟨_, _, rfl, h⟩
  · next hn he =>
    refine ⟨.config, some (String.ofList rest), ?_, h⟩
    unfold flagOf?
    split <;> simp_all
  · obtain ⟨_, -, h⟩ := bind_eq_ok h
    cases h
  · obtain ⟨_, -, h⟩ := bind_eq_ok h
    cases h
  · cases h

end

/-! ## command lines -/

section
variable {d e : Draft} {flag : Flag} {s t v : String} {more : List String}

theorem given_named (h : flagOf? (Word.ofText s) = some (flag, none)) :
    given none (s :: more) = given (some flag) more := by
  rw [given]
  split
  · next hs =>
    rw [hs] at h
    cases h
  · rw [h]

theorem given_valued (h : flagOf? (Word.ofText s) = some (flag, some v)) :
    given none (s :: more) = (flag, v) :: given none more := by
  rw [given]
  split
  · next hs =>
    rw [hs] at h
    cases h
  · rw [h]

theorem given_plain (h : Word.ofText s = .plain t) : given none (s :: more) = given none more := by
  rw [given, h]
  rfl

theorem text_of_plain (h : Word.ofText s = .plain t) : t = s := by
  unfold Word.ofText at h
  split at h
  · cases h
  · cases h
  · cases h
  · exact (Word.plain.inj h).symm

/-- words that are taken add the flags that they give -/
theorem adds_takeAll {words : List String} (h : d.takeAll words = .ok e) :
    d.Adds e (d.due ++ given d.awaited? words) := by
  induction words generalizing d with
  | nil =>
    obtain ⟨ha, -, -⟩ := adds_settle h
    rw [given, List.append_nil]
    exact ha
  | cons s more ih =>
    -- a flag with its value, or with the next word to come
    have hflag : ∀ {m : Draft} {flag : Flag} {value : Option String},
        flagOf? (Word.ofText s) = some (flag, value) → d.takeFlag flag value = .ok m →
        m.takeAll more = .ok e → d.Adds e (d.due ++ given d.awaited? (s :: more)) := by
      intro m flag value hf hm h
      obtain ⟨ha, hn, hd, hw⟩ := adds_takeFlag hm
      have ht := ha.trans (ih h)
      rw [hd, hw, List.nil_append, List.append_assoc] at ht
      rw [hn]
      cases value with
      | none =>
        rw [given_named hf]
        exact ht
      | some v =>
        rw [given_valued hf]
        exact ht
    rw [takeAll] at h
    split at h
    · next hs =>
      obtain ⟨ha, hn⟩ := adds_takeServers h
      have hg : given none (s :: more) = [] := by rw [given, hs]
      rw [hn, hg, List.append_nil]
      exact ha
    · next name value hs =>
      obtain ⟨m, hm, h⟩ := bind_eq_ok h
      obtain ⟨flag, hf, hm⟩ := flag_of_takeLong hm
      exact hflag (hs ▸ hf) hm h
    · next letter rest hs =>
      obtain ⟨m, hm, h⟩ := bind_eq_ok h
      obtain ⟨flag, value, hf, hm⟩ := flag_of_takeShort hm
      exact hflag (hs ▸ hf) hm h
    · next text hs =>
      obtain rfl := text_of_plain hs
      obtain ⟨m, hm, h⟩ := bind_eq_ok h
      unfold takePlain at hm
      split at hm
      · next flag hp =>
        obtain rfl := Except.ok.inj hm
        have hr := ih h
        obtain ⟨hd, hw⟩ := due_of_awaiting hp
        rw [hd, hw, given]
        exact (d.adds_nil d.server (.value flag text) d.named).trans hr
      · obtain ⟨ha, hn, hd, hw⟩ := adds_takeServer hm
        have ht := ha.trans (ih h)
        rw [hd, hw, List.nil_append] at ht
        rw [hn, given_plain hs]
        exact ht

end

end Draft

/-- **Flags and environment.** The arguments of a command line are what its words give; where they give no
address or no token, the variable of the environment stands in. -/
theorem parse_flags {words : List String} {env : Environment} {a : Arguments}
    (h : parse words env = .ok a) :
    a.panelUrl = (flag? words .panelUrl).or (env panelUrlVariable) ∧
      a.token = (flag? words .token).or (env tokenVariable) ∧
      a.config = flag? words .config ∧ a.scrollback = count? words := by
  obtain ⟨d, hd, h⟩ := bind_eq_ok h
  have hg : Draft.empty.Adds d (given none words) := Draft.adds_takeAll hd
  cases hs : d.server with
  | none =>
    rw [hs] at h
    cases h
  | some id =>
    rw [hs] at h
    obtain rfl := Except.ok.inj h
    refine ⟨?_, ?_, hg.config, hg.scrollback⟩
    · rw [hg.panelUrl]
      rfl
    · rw [hg.token]
      rfl

end ServerConsole.Arguments
