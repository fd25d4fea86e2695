/-
QsoRipper/Cw/Template.lean

Templates of CW macros.  A brace stands for itself if it is doubled, and `{NAME}` stands for
the value of a token; `expand_template` reads a template from left to right with one
character of lookahead.

It inverts rendering: doubled braces and token braces may meet without anything between
them, but a token has a name, and no name begins with a brace.  What it refuses is refused
at the first place that no rendering has.
-/
import QsoRipper.Cw.Worker
import QsoRipper.Domain.Station
import QsoRipper.Lib.Lines

namespace QsoRipper.Cw

/-! ### Tokens -/

/-- The variants of `CwError` that a template meets. -/
inductive TemplateError where
  | unknownToken (token : String)
  | unmatchedOpenBrace
  | unmatchedCloseBrace
  | missingTokenValue (token required : String)
deriving DecidableEq

/-- `CwSendContext`. -/
structure CwSendContext where
  workedCallsign : Option String := none
  rst : Option String := none
  exchange : Option String := none
  serial : Option ℕ := none

/-- `non_empty`. -/
def nonEmpty (value : String) : Option String :=
  let trimmed := Text.trim value
  if trimmed.isEmpty then none else some (Text.toAsciiUppercase trimmed)

/-- `ok_or`. -/
def okOr (value : Option String) (error : TemplateError) : Except TemplateError String :=
  match value with
  | some value => .ok value
  | none => .error error

/-- `resolve_token`. -/
def resolveToken (context : Option CwSendContext) (stationProfile : Option StationProfile)
    (token : String) : Except TemplateError String :=
  let name := Text.toAsciiUppercase (Text.trim token)
  if name = "MYCALL" then
    okOr (stationProfile.bind fun profile => nonEmpty profile.stationCallsign)
      (.missingTokenValue "MYCALL" "an active station callsign")
  else if name = "HISCALL" then
    okOr ((context.bind (·.workedCallsign)).bind nonEmpty)
      (.missingTokenValue "HISCALL" "a worked callsign")
  else if name = "RST" then .ok (((context.bind (·.rst)).bind nonEmpty).getD "599")
  else if name = "EXCH" then
    okOr ((context.bind (·.exchange)).bind nonEmpty) (.missingTokenValue "EXCH" "an exchange")
  else if name = "NR" then
    okOr ((context.bind (·.serial)).map toString) (.missingTokenValue "NR" "a serial number")
  else .error (.unknownToken name)

/-! ### Expansion -/

/-- The loops of `expand_template`: between tokens, and in the token that has been read up to
here. -/
def expandLoop (resolve : String → Except TemplateError String) :
    List Char → Option String → String → Except TemplateError String
  | [], none, output => .ok output
  | [], some _, _ => .error .unmatchedOpenBrace
  | ch :: chars, some token, output =>
      if ch = '}' then
        match resolve token with
        | .ok value => expandLoop resolve chars none (output ++ value)
        | .error error => .error error
      else if ch = '{' then .error .unmatchedOpenBrace
      else expandLoop resolve chars (some (token.push ch)) output
  | ch :: chars, none, output =>
      if ch = '{' then
        match chars with
        | '{' :: chars => expandLoop resolve chars none (output.push '{')
        | chars => expandLoop resolve chars (some "") output
      else if ch = '}' then
        match chars with
        | '}' :: chars => expandLoop resolve chars none (output.push '}')
        | _ => .error .unmatchedCloseBrace
      else expandLoop resolve chars none (output.push ch)

/-- `expand_template`. -/
def expandTemplate (template : String) (context : Option CwSendContext)
    (stationProfile : Option StationProfile) : Except TemplateError String :=
  expandLoop (resolveToken context stationProfile) template.toList none ""

example : expandTemplate "\x7b\x7b\x7bmycall\x7d\x7d\x7d" none (some { stationCallsign := "K7ABC" })
    = .ok "\x7bK7ABC\x7d" := by
  decide +kernel

/-! ### Steps of the loop -/

section Steps

variable {resolve : String → Except TemplateError String} {chars : List Char} {output : String}

theorem expandLoop_open :
    expandLoop resolve ('{' :: '{' :: chars) none output
      = expandLoop resolve chars none (output.push '{') := by
  simp [expandLoop]

theorem expandLoop_close :
    expandLoop resolve ('}' :: '}' :: chars) none output
      = expandLoop resolve chars none (output.push '}') := by
  simp [expandLoop]

theorem expandLoop_plain {ch : Char} (hopen : ch ≠ '{') (hclose : ch ≠ '}') :
    expandLoop resolve (ch :: chars) none output
      = expandLoop resolve chars none (output.push ch) := by
  conv_lhs => unfold expandLoop
  simp only [if_neg hopen, if_neg hclose]

/-- A brace that is not doubled opens a token. -/
theorem expandLoop_token (h : chars.head? ≠ some '{') :
    expandLoop resolve ('{' :: chars) none output = expandLoop resolve chars (some "") output := by
  conv_lhs => unfold expandLoop
  simp only [if_true]
  split
  · exact absurd rfl h
  · rfl

/-- The characters of a token. -/
def NoBrace (cs : List Char) : Prop := '{' ∉ cs ∧ '}' ∉ cs

/-- A token is read up to its closing brace. -/
theorem expandLoop_name {name : List Char} (hname : NoBrace name) (token : String) :
    expandLoop resolve (name ++ chars) (some token) output
      = expandLoop resolve chars (some (token ++ String.ofList name)) output := by
  induction name generalizing token with
  | nil => rw [List.nil_append, String.ofList_nil, String.append_empty]
  | cons ch name ih =>
      obtain ⟨hopen, hclose⟩ := hname
      rw [List.mem_cons, not_or] at hopen hclose
      have hsplit : token ++ String.ofList (ch :: name) = token.push ch ++ String.ofList name := by
        rw [← String.toList_inj]
        simp
      rw [List.cons_append, expandLoop, if_neg (Ne.symm hclose.1), if_neg (Ne.symm hopen.1),
        ih ⟨hopen.2, hclose.2⟩, hsplit]

/-- What a token at the front comes to. -/
theorem expandLoop_braced {name : List Char} (hname : NoBrace name) :
    expandLoop resolve ('{' :: (name ++ '}' :: chars)) none output
      = match resolve (String.ofList name) with
        | .ok value => expandLoop resolve chars none (output ++ value)
        | .error error => .error error := by
  have hhead : (name ++ '}' :: chars).head? ≠ some '{' := by
    cases name with
    | nil => simp
    | cons ch name =>
        rw [List.cons_append, List.head?_cons, ne_eq, Option.some_inj]
        rintro rfl
        exact hname.1 List.mem_cons_self
  rw [expandLoop_token hhead, expandLoop_name hname, String.empty_append, expandLoop]
  rfl

end Steps

/-! ### Rendering -/

/-- A piece of a template. -/
inductive Segment where
  | literal (text : String)
  | token (name : String)

/-- A literal with its braces doubled. -/
def doubled (cs : List Char) : List Char :=
  cs.flatMap fun ch => if ch = '{' ∨ ch = '}' then [ch, ch] else [ch]

/-- A piece as it is written. -/
def Segment.render : Segment → List Char
  | literal text => doubled text.toList
  | token name => '{' :: (name.toList ++ ['}'])

/-- A piece as it is sent; a token without a value counts for nothing. -/
def Segment.value (resolve : String → Except TemplateError String) : Segment → String
  | literal text => text
  | token name => (resolve name).toOption.getD ""

/-- Does the token of a piece have a value? -/
def Segment.Resolvable (resolve : String → Except TemplateError String) : Segment → Prop
  | literal _ => True
  | token name => ∃ value, resolve name = .ok value

/-- A list of pieces as it is written. -/
def render (segments : List Segment) : String :=
  String.ofList (segments.flatMap Segment.render)

/-- A list of pieces as it is sent. -/
def values (resolve : String → Except TemplateError String) (segments : List Segment) : String :=
  String.ofList (segments.flatMap fun segment => (segment.value resolve).toList)

/-- **The form of a template**: pieces whose tokens have values. -/
def IsRendering (resolve : String → Except TemplateError String) (template : String) : Prop :=
  ∃ segments, (∀ segment ∈ segments, Segment.Resolvable resolve segment)
    ∧ template = render segments

/-! ### Names have no braces -/

theorem mem_trim {c : Char} {s : String} (hc : c ∈ s.toList)
    (hspace : Text.isWhitespace c = false) :
    c ∈ (Text.trim s).toList := by
  have hdrop {l : List Char} (hl : c ∈ l) : c ∈ l.dropWhile Text.isWhitespace := by
    rw [← List.takeWhile_append_dropWhile (p := Text.isWhitespace) (l := l)] at hl
    rcases List.mem_append.mp hl with hl | hl
    · rw [List.mem_takeWhile_imp hl] at hspace
      cases hspace
    · exact hl
  rw [Text.toList_trim, Text.trimList, List.rdropWhile, List.mem_reverse]
  exact hdrop (List.mem_reverse.mpr (hdrop hc))

/-- A name with a value is not empty and has no brace. -/
theorem noBrace_of_resolveToken {context : Option CwSendContext}
    {stationProfile : Option StationProfile} {name value : String}
    (h : resolveToken context stationProfile name = .ok value) : NoBrace name.toList := by
  have hlisted : Text.toAsciiUppercase (Text.trim name)
      ∈ ["MYCALL", "HISCALL", "RST", "EXCH", "NR"] := by
    unfold resolveToken at h
    dsimp only at h
    split_ifs at h <;> simp_all
  have hbrace {brace : Char} (hspace : Text.isWhitespace brace = false)
      (hupper : Text.asciiUpperChar brace = brace) (hmem : brace ∈ name.toList) :
      brace ∈ (Text.toAsciiUppercase (Text.trim name)).toList := by
    rw [Text.toAsciiUppercase, String.toList_ofList]
    exact List.mem_map.mpr ⟨brace, mem_trim hmem hspace, hupper⟩
  have hnames : ∀ name ∈ ["MYCALL", "HISCALL", "RST", "EXCH", "NR"],
      '{' ∉ name.toList ∧ '}' ∉ name.toList := by
    decide
  obtain ⟨hopen, hclose⟩ := hnames _ hlisted
  exact ⟨fun hmem => hopen (hbrace (by decide) (by decide) hmem),
    fun hmem => hclose (hbrace (by decide) (by decide) hmem)⟩

/-! ### Expansion inverts rendering -/

section Inverse

variable {resolve : String → Except TemplateError String} {chars rest : List Char}
variable {output : String} {segment : Segment} {segments : List Segment}

/-- The literal of a piece is read back, whatever comes behind it. -/
theorem expandLoop_doubled (cs : List Char) :
    expandLoop resolve (doubled cs ++ rest) none output
      = expandLoop resolve rest none (output ++ String.ofList cs) := by
  induction cs generalizing output with
  | nil =>
      rw [String.ofList_nil, String.append_empty]
      rfl
  | cons ch cs ih =>
      have hsplit : output ++ String.ofList (ch :: cs) = output.push ch ++ String.ofList cs := by
        rw [← String.toList_inj]
        simp
      rw [hsplit, ← ih]
      by_cases hopen : ch = '{'
      · subst hopen
        exact expandLoop_open
      · by_cases hclose : ch = '}'
        · subst hclose
          exact expandLoop_close
        · have hdoubled : doubled (ch :: cs) = ch :: doubled cs := by
            simp [doubled, hopen, hclose]
          rw [hdoubled]
          exact expandLoop_plain hopen hclose

/-- A piece is read back, whatever comes behind it. -/
theorem expandLoop_segment (hnames : ∀ name value, resolve name = .ok value → NoBrace name.toList)
    (h : segment.Resolvable resolve) :
    expandLoop resolve (segment.render ++ rest) none output
      = expandLoop resolve rest none (output ++ segment.value resolve) := by
  cases segment with
  | literal text =>
      have hread : expandLoop resolve (doubled text.toList ++ rest) none output
          = expandLoop resolve rest none (output ++ String.ofList text.toList) :=
        expandLoop_doubled text.toList
      rwa [String.ofList_toList] at hread
  | token name =>
      obtain ⟨value, hvalue⟩ := h
      have hread : expandLoop resolve ('{' :: (name.toList ++ '}' :: rest)) none output = _ :=
        expandLoop_braced (hnames name value hvalue)
      rw [String.ofList_toList, hvalue] at hread
      simpa [Segment.render, Segment.value, hvalue, Except.toOption] using hread

/-- The pieces are read back, whatever comes behind them. -/
theorem expandLoop_segments
    (hnames : ∀ name value, resolve name = .ok value → NoBrace name.toList)
    (h : ∀ segment ∈ segments, segment.Resolvable resolve) :
    expandLoop resolve (segments.flatMap Segment.render ++ rest) none output
      = expandLoop resolve rest none (output ++ values resolve segments) := by
  induction segments generalizing output with
  | nil =>
      have hnil : values resolve [] = "" := rfl
      rw [hnil, String.append_empty]
      rfl
  | cons segment segments ih =>
      have hsplit : output ++ values resolve (segment :: segments)
          = output ++ segment.value resolve ++ values resolve segments := by
        rw [← String.toList_inj]
        simp [values]
      rw [List.flatMap_cons, List.append_assoc, expandLoop_segment hnames (h _ List.mem_cons_self),
        ih fun segment hmem => h segment (List.mem_cons_of_mem _ hmem), hsplit]

/-! ### What is refused -/

/-- Where no piece begins, and what is said about it. -/
inductive Stuck (resolve : String → Except TemplateError String) :
    TemplateError → List Char → Prop
  | unclosed {name : List Char} : NoBrace name → Stuck resolve .unmatchedOpenBrace ('{' :: name)
  | nested {name more : List Char} : NoBrace name →
      Stuck resolve .unmatchedOpenBrace ('{' :: (name ++ '{' :: more))
  | close {more : List Char} : Stuck resolve .unmatchedCloseBrace ('}' :: more)
  | token {name more : List Char} {error : TemplateError} : NoBrace name →
      resolve (String.ofList name) = .error error →
      Stuck resolve error ('{' :: (name ++ '}' :: more))

/-- A text is pieces that are read back, and behind them the end or a place that is refused. -/
def Reads (resolve : String → Except TemplateError String) (chars : List Char) (output : String)
    (result : Except TemplateError String) : Prop :=
  ∃ segments rest, (∀ segment ∈ segments, Segment.Resolvable resolve segment)
    ∧ chars = segments.flatMap Segment.render ++ rest
    ∧ (rest = [] ∧ result = .ok (output ++ values resolve segments)
      ∨ ∃ error, result = .error error ∧ Stuck resolve error rest)

theorem Reads.cons {result : Except TemplateError String} (hsegment : segment.Resolvable resolve)
    (h : Reads resolve chars (output ++ segment.value resolve) result) :
    Reads resolve (segment.render ++ chars) output result := by
  obtain ⟨segments, rest, hsegments, rfl, hend⟩ := h
  have hsplit : output ++ values resolve (segment :: segments)
      = output ++ segment.value resolve ++ values resolve segments := by
    rw [← String.toList_inj]
    simp [values]
  refine ⟨segment :: segments, rest, List.forall_mem_cons.mpr ⟨hsegment, hsegments⟩, ?_, ?_⟩
  · rw [List.flatMap_cons, List.append_assoc]
  · rwa [hsplit]

theorem Reads.stuck {error : TemplateError} (h : Stuck resolve error chars) :
    Reads resolve chars output (.error error) :=
  ⟨[], chars, nofun, rfl, .inr ⟨error, rfl, h⟩⟩

/-- One character as a literal. -/
theorem Reads.char {result : Except TemplateError String} {ch : Char}
    (h : Reads resolve chars (output.push ch) result) :
    Reads resolve (doubled [ch] ++ chars) output result := by
  have hliteral : (Segment.literal (String.singleton ch)).render = doubled [ch] := by
    simp [Segment.render]
  have hvalue : output ++ (Segment.literal (String.singleton ch)).value resolve
      = output.push ch := by
    rw [← String.toList_inj]
    simp [Segment.value]
  rw [← hliteral]
  refine Reads.cons trivial ?_
  rwa [hvalue]

/-- **What the loop makes of a text.** -/
theorem expandLoop_reads (chars : List Char) (output : String) :
    Reads resolve chars output (expandLoop resolve chars none output) := by
  induction hlength : chars.length using Nat.strong_induction_on generalizing chars output with
  | _ n ih =>
      match chars with
      | [] =>
          refine ⟨[], [], nofun, rfl, .inl ⟨rfl, ?_⟩⟩
          have hnil : values resolve [] = "" := rfl
          rw [hnil, String.append_empty]
          rfl
      | ch :: chars =>
          rw [List.length_cons] at hlength
          by_cases hopen : ch = '{'
          · subst hopen
            by_cases hpeek : chars.head? = some '{'
            · obtain ⟨more, rfl⟩ := List.head?_eq_some_iff.mp hpeek
              rw [List.length_cons] at hlength
              rw [expandLoop_open]
              exact Reads.char (ih more.length (by omega) more (output.push '{') rfl)
            · -- a token: its name goes up to the next brace
              have hname : NoBrace (chars.takeWhile fun c => !(c == '{' || c == '}')) := by
                constructor <;> intro hmem <;> exact absurd (List.mem_takeWhile_imp hmem) (by decide)
              have hsplit := List.takeWhile_append_dropWhile
                (p := fun c => !(c == '{' || c == '}')) (l := chars)
              cases hdrop : chars.dropWhile fun c => !(c == '{' || c == '}') with
              | nil =>
                  rw [hdrop, List.append_nil] at hsplit
                  rw [hsplit] at hname
                  have hend : expandLoop resolve (chars ++ []) (some "") output = _ :=
                    expandLoop_name hname ""
                  rw [List.append_nil] at hend
                  rw [expandLoop_token hpeek, hend]
                  exact Reads.stuck (.unclosed hname)
              | cons brace more =>
                  have hbrace : brace = '{' ∨ brace = '}' := by
                    have hnot := List.head?_dropWhile_not (fun c => !(c == '{' || c == '}')) chars
                    rw [hdrop, List.head?_cons] at hnot
                    exact or_iff_not_imp_left.mpr (by simpa using hnot)
                  rw [hdrop] at hsplit
                  rw [← hsplit]
                  generalize chars.takeWhile (fun c => !(c == '{' || c == '}')) = name at hname hsplit
                  rcases hbrace with rfl | rfl
                  · have hhead : (name ++ '{' :: more).head? ≠ some '{' := by
                      rw [hsplit]
                      exact hpeek
                    rw [expandLoop_token hhead, expandLoop_name hname]
                    exact Reads.stuck (.nested hname)
                  · rw [expandLoop_braced hname]
                    cases hresolve : resolve (String.ofList name) with
                    | error error => exact Reads.stuck (.token hname hresolve)
                    | ok value =>
                        have hlonger := congrArg List.length hsplit
                        rw [List.length_append, List.length_cons] at hlonger
                        have hrest := ih more.length (by omega) more (output ++ value) rfl
                        have hvalue : (Segment.token (String.ofList name)).value resolve = value := by
                          simp [Segment.value, hresolve, Except.toOption]
                        rw [← hvalue] at hrest
                        have htoken : (Segment.token (String.ofList name)).Resolvable resolve :=
                          ⟨value, hresolve⟩
                        simpa [Segment.render, hvalue] using Reads.cons htoken hrest
          · by_cases hclose : ch = '}'
            · subst hclose
              by_cases hpeek : chars.head? = some '}'
              · obtain ⟨more, rfl⟩ := List.head?_eq_some_iff.mp hpeek
                rw [List.length_cons] at hlength
                rw [expandLoop_close]
                exact Reads.char (ih more.length (by omega) more (output.push '}') rfl)
              · have herror : expandLoop resolve ('}' :: chars) none output
                    = .error .unmatchedCloseBrace := by
                  conv_lhs => unfold expandLoop
                  simp only [if_neg (show '}' ≠ '{' by decide), if_true]
                  split
                  · exact absurd rfl hpeek
                  · rfl
                rw [herror]
                exact Reads.stuck .close
            · rw [expandLoop_plain hopen hclose]
              have hdoubled : doubled [ch] = [ch] := by
                simp [doubled, hopen, hclose]
              have hall : Reads resolve (doubled [ch] ++ chars) output _ :=
                Reads.char (ih chars.length (by omega) chars (output.push ch) rfl)
              rwa [hdoubled] at hall

end Inverse

/-! ### Templates -/

/-- A template whose first place that is no piece is a token without a value. -/
def IsUnresolved (resolve : String → Except TemplateError String) (template : String)
    (error : TemplateError) : Prop :=
  ∃ (segments : List Segment) (name rest : List Char),
    (∀ segment ∈ segments, segment.Resolvable resolve) ∧ NoBrace name
    ∧ resolve (String.ofList name) = .error error
    ∧ template.toList = segments.flatMap Segment.render ++ '{' :: (name ++ '}' :: rest)

section Templates

variable (context : Option CwSendContext) (stationProfile : Option StationProfile)

theorem expandTemplate_render {segments : List Segment}
    (h : ∀ segment ∈ segments, segment.Resolvable (resolveToken context stationProfile)) :
    expandTemplate (render segments) context stationProfile
      = .ok (values (resolveToken context stationProfile) segments) := by
  have hread : expandLoop (resolveToken context stationProfile)
      (segments.flatMap Segment.render ++ []) none "" = _ :=
    expandLoop_segments (fun name value => noBrace_of_resolveToken) h
  rw [List.append_nil, String.empty_append] at hread
  rw [expandTemplate, render, String.toList_ofList, hread]
  rfl

theorem expandTemplate_unresolved {template : String} {error : TemplateError}
    (h : IsUnresolved (resolveToken context stationProfile) template error) :
    expandTemplate template context stationProfile = .error error := by
  obtain ⟨segments, name, rest, hsegments, hname, hresolve, htemplate⟩ := h
  rw [expandTemplate, htemplate,
    expandLoop_segments (fun name value => noBrace_of_resolveToken) hsegments,
    expandLoop_braced hname, hresolve]

/-- What is neither a rendering nor stopped by a token has a brace too many. -/
theorem expandTemplate_unmatched {template : String}
    (hform : ¬IsRendering (resolveToken context stationProfile) template)
    (hresolved : ¬∃ error, IsUnresolved (resolveToken context stationProfile) template error) :
    expandTemplate template context stationProfile = .error .unmatchedOpenBrace
      ∨ expandTemplate template context stationProfile = .error .unmatchedCloseBrace := by
  obtain ⟨segments, rest, hsegments, hchars, hend⟩ :
      Reads (resolveToken context stationProfile) template.toList "" _ :=
    expandLoop_reads template.toList ""
  rcases hend with ⟨rfl, -⟩ | ⟨error, herror, hstuck⟩
  · refine absurd ⟨segments, hsegments, ?_⟩ hform
    rw [render, ← String.toList_inj, hchars, List.append_nil, String.toList_ofList]
  · cases hstuck with
    | unclosed _ => exact .inl herror
    | nested _ => exact .inl herror
    | close => exact .inr herror
    | token hname hresolve =>
        exact absurd ⟨error, segments, _, _, hsegments, hname, hresolve, hchars⟩ hresolved

/-- **Expansion inverts rendering**, and refuses everything else at the first place that is no
piece: a token without a value with its own error, a brace too many as unmatched. -/
theorem expandTemplate_inverts_render :
    (∀ segments : List Segment,
      (∀ segment ∈ segments, segment.Resolvable (resolveToken context stationProfile)) →
      expandTemplate (render segments) context stationProfile
        = .ok (values (resolveToken context stationProfile) segments))
    ∧ (∀ template error, IsUnresolved (resolveToken context stationProfile) template error →
      expandTemplate template context stationProfile = .error error)
    ∧ ∀ template, ¬IsRendering (resolveToken context stationProfile) template →
      (¬∃ error, IsUnresolved (resolveToken context stationProfile) template error) →
      expandTemplate template context stationProfile = .error .unmatchedOpenBrace
        ∨ expandTemplate template context stationProfile = .error .unmatchedCloseBrace :=
  ⟨fun _ => expandTemplate_render context stationProfile,
    fun _ _ => expandTemplate_unresolved context stationProfile,
    fun _ => expandTemplate_unmatched context stationProfile⟩

end Templates

/-- The station of the tests. -/
def k7abc : StationProfile := { stationCallsign := "K7ABC" }

/-- A brace, a token and a brace. -/
theorem expandTemplate_inverts_render_k7abc :
    expandTemplate (render [.literal "\x7b", .token "mycall", .literal "\x7d"]) none (some k7abc)
        = .ok (values (resolveToken none (some k7abc))
          [.literal "\x7b", .token "mycall", .literal "\x7d"])
      ∧ expandTemplate "\x7bNOPE\x7d \x7d" none (some k7abc) = .error (.unknownToken "NOPE") := by
  have hinverts := expandTemplate_inverts_render none (some k7abc)
  have hmycall : resolveToken none (some k7abc) "mycall" = .ok "K7ABC" := by decide +kernel
  have hnope : resolveToken none (some k7abc) "NOPE" = .error (.unknownToken "NOPE") := by
    decide +kernel
  refine ⟨hinverts.1 _ ?_, hinverts.2.1 _ _ ⟨[], "NOPE".toList, [' ', '}'], nofun, ?_, ?_, rfl⟩⟩
  · simp only [List.forall_mem_cons, List.not_mem_nil, false_imp_iff, implies_true, and_true]
    exact ⟨trivial, ⟨"K7ABC", hmycall⟩, trivial⟩
  · constructor <;> decide
  · rwa [String.ofList_toList]

/-- A template that is no rendering need not have an unmatched brace. -/
theorem not_rejected_unmatched :
    ¬ ∀ template : String, ¬IsRendering (resolveToken none none) template →
      expandTemplate template none none = .error .unmatchedOpenBrace
        ∨ expandTemplate template none none = .error .unmatchedCloseBrace := by
  intro h
  have hunknown : expandTemplate "\x7bNOPE\x7d" none none = .error (.unknownToken "NOPE") := by
    decide +kernel
  have hform : ¬IsRendering (resolveToken none none) "\x7bNOPE\x7d" := by
    rintro ⟨segments, hsegments, htemplate⟩
    rw [htemplate, expandTemplate_render none none hsegments] at hunknown
    cases hunknown
  rcases h "\x7bNOPE\x7d" hform with herror | herror
  · rw [hunknown] at herror
    cases herror
  · rw [hunknown] at herror
    cases herror

end QsoRipper.Cw
