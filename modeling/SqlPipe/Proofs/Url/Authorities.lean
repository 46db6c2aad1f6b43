import SqlPipe.Proofs.Url.Hosts
import SqlPipe.Proofs.Url.Schemes

/-!
# Authorities read back

Where the scheme is not special, the user, the host and the port that were read hold nothing that
could be taken for a sign between them, so their written form is read as just these parts.
-/

namespace SqlPipe.Url

variable {text rest : List Char}

/-! ## Results of steps -/

section

variable {ε α β : Type}

theorem exists_of_bind_eq_ok
    {first : Except ε α} {next : α → Except ε β} {result : β} (hok : first.bind next = .ok result) :
    ∃ value, first = .ok value ∧ next value = .ok result := by
  cases first with
  | error fault => cases hok
  | ok value => exact ⟨value, rfl, hok⟩

theorem exists_of_map_eq_ok
    {first : Except ε α} {change : α → β} {result : β} (hok : first.map change = .ok result) :
    ∃ value, first = .ok value ∧ change value = result := by
  cases first with
  | error fault => cases hok
  | ok value => exact ⟨value, rfl, Except.ok.inj hok⟩

end

/-! ## The steps of reading an authority -/

theorem readHost_other (text : List Char) :
    readHost .other text =
      (plainHost (splitHostOnto false false [] text).1).bind fun host =>
        if host = .name "" ∧ (splitHostOnto false false [] text).2.head? = some ':' then
          .error .emptyHost
        else
          (portBehind .other (splitHostOnto false false [] text).2).map
            fun found => (host, found.1, found.2) := by
  rw [readHost]
  simp only [SchemeKind.isSpecial, Bool.false_and, Bool.false_eq_true, if_false]
  cases plainHost (splitHostOnto false false [] text).1 with
  | error fault => rfl
  | ok host =>
      simp only [bind, Except.bind, pure, Except.pure, throw, throwThe, MonadExceptOf.throw,
        Bool.and_eq_true, decide_eq_true_eq, beq_iff_eq]
      split
      next => rfl
      next => cases portBehind .other (splitHostOnto false false [] text).2 <;> rfl

section

variable {kind : SchemeKind}

def authorityText (kind : SchemeKind) (text : List Char) : List Char :=
  text.takeWhile fun c => !endsAuthority kind.isSpecial c

/-- What stands behind an authority, from the sign that ends it on. -/
def behindAuthority (kind : SchemeKind) (text : List Char) : List Char :=
  text.dropWhile fun c => !endsAuthority kind.isSpecial c

theorem readAuthority_of_none
    (hnone : Text.splitAtLast? '@' (authorityText kind text) = none) :
    readAuthority kind text =
      (readHost kind text).map fun found =>
        (⟨"", none, found.1, found.2.1⟩, found.2.2) := by
  have hcandidate : Text.splitAtLast? '@'
      (text.takeWhile fun c => !endsAuthority kind.isSpecial c) = none := hnone
  rw [readAuthority]
  simp only [hcandidate]
  cases readHost kind text <;> rfl

theorem readAuthority_of_some
    {userinfo near : List Char}
    (hsome : Text.splitAtLast? '@' (authorityText kind text) = some (userinfo, near)) :
    readAuthority kind text =
      if userinfo = [] ∧ near = [] ∧ behindAuthority kind text ≠ [] then .error .emptyHost
      else
        (readHost kind (near ++ behindAuthority kind text)).bind fun found =>
          if found.1 = .name "" ∧
              ¬((readUserinfo userinfo).1 = "" ∧ (readUserinfo userinfo).2 = none) then
            .error .emptyHost
          else
            .ok (⟨(readUserinfo userinfo).1, (readUserinfo userinfo).2, found.1, found.2.1⟩,
              found.2.2) := by
  have hcandidate : Text.splitAtLast? '@'
      (text.takeWhile fun c => !endsAuthority kind.isSpecial c) = some (userinfo, near) := hsome
  rw [readAuthority]
  simp only [hcandidate]
  change (if (userinfo.isEmpty && near.isEmpty && !(behindAuthority kind text).isEmpty) = true
    then _ else (readHost kind (near ++ behindAuthority kind text)).bind _) = _
  by_cases hempty : userinfo = [] ∧ near = [] ∧ behindAuthority kind text ≠ []
  · rw [if_pos hempty, if_pos (by simpa [and_assoc] using hempty)]
    rfl
  · rw [if_neg hempty, if_neg (by simpa [and_assoc] using hempty)]
    cases readHost kind (near ++ behindAuthority kind text) with
    | error fault => rfl
    | ok found =>
        simp only [Except.bind, pure, Except.pure, bind, throw, throwThe, MonadExceptOf.throw,
          Bool.and_eq_true, decide_eq_true_eq, Bool.not_eq_true', ← Bool.not_eq_true,
          String.isEmpty_iff, Option.isNone_iff_eq_none]

end

/-- Nothing stands behind an authority, or the sign that ends it. -/
def EndsAuthority (rest : List Char) : Prop :=
  ∀ c ∈ rest.head?, endsAuthority false c = true

/-! ## Ports -/

theorem readPort_of_end (hrest : EndsAuthority rest) (port : Option ℕ) :
    readPort port rest = .ok (port, rest) := by
  cases rest with
  | nil => rfl
  | cons c rest =>
      have hend : c = '/' ∨ c = '?' ∨ c = '#' := by
        simpa [endsAuthority, or_assoc] using hrest c rfl
      rcases hend with rfl | rfl | rfl <;> rfl

theorem readPort_digit
    {value : ℕ} (hvalue : value < 10) {port : Option ℕ} (hport : port.getD 0 * 10 + value ≤ 65535)
    (rest : List Char) :
    readPort port (Nat.digitChar value :: rest) =
      readPort (some (port.getD 0 * 10 + value)) rest := by
  have hdigit : ∀ value < 10, (Nat.digitChar value).isDigit = true ∧
      (Nat.digitChar value).toNat - 0x30 = value := by decide
  obtain ⟨his, hnumber⟩ := hdigit value hvalue
  rw [readPort, if_pos his, hnumber]
  exact if_neg (Nat.not_lt.mpr hport)

theorem readPort_toDigits {port : ℕ} (hport : port ≤ 65535) (rest : List Char) :
    readPort none (Nat.toDigits 10 port ++ rest) = readPort (some port) rest := by
  induction port using Nat.strong_induction_on generalizing rest with
  | _ port ih =>
      by_cases hsmall : port < 10
      · rw [Nat.toDigits_of_lt_base hsmall, List.singleton_append,
          readPort_digit hsmall (by simpa using hport)]
        simp
      · have hsum : port / 10 * 10 + port % 10 = port := Nat.div_add_mod' port 10
        rw [Nat.toDigits_of_base_le (by decide) (by omega), List.append_assoc,
          ih (port / 10) (by omega) (by omega), List.singleton_append,
          readPort_digit (Nat.mod_lt port (by decide)) (by simpa [hsum] using hport),
          Option.getD_some, hsum]

theorem le_of_readPort
    {port found : Option ℕ} (hfound : readPort port text = .ok (found, rest))
    (hport : ∀ number ∈ port, number ≤ 65535) : ∀ number ∈ found, number ≤ 65535 := by
  induction text generalizing port with
  | nil =>
      cases hfound
      exact hport
  | cons c others ih =>
      rw [readPort] at hfound
      split at hfound
      next =>
        dsimp only at hfound
        split at hfound
        next => cases hfound
        next hsmall =>
          refine ih hfound ?_
          rintro number ⟨⟩
          exact Nat.le_of_not_gt hsmall
      next =>
        split at hfound
        next =>
          cases hfound
          exact hport
        next => cases hfound

def portText : Option ℕ → List Char
  | some port => ':' :: Nat.toDigits 10 port
  | none => []

/-! ## The host of a text -/

def isOutside (c : Char) : Bool :=
  endsAuthority false c || c == '@' || isControlOrBlank c

theorem isOutside_of_isHexDigit {c : Char} (hc : isHexDigit c = true) : isOutside c = false :=
  forall_ascii (p := fun c => isHexDigit c = true → isOutside c = false) (by decide)
    (ascii_of_isHexDigit hc) hc

theorem Host.Plain.isOutside_eq_false {host : Host} (hhost : host.Plain) :
    ∀ c ∈ host.render.toList, isOutside c = false := by
  cases hhost with
  | name htext => exact htext.forall_eq_false (by decide)
  | ipv6 =>
      intro c hc
      rw [toList_render_ipv6, List.mem_cons, List.mem_append, List.mem_singleton] at hc
      rcases hc with rfl | hinside | rfl
      · decide
      · rcases mem_renderIpv6 hinside with rfl | hdigit
        · decide
        · exact isOutside_of_isHexDigit hdigit
      · decide

theorem isOutside_portText (port : Option ℕ) : ∀ c ∈ portText port, isOutside c = false := by
  cases port with
  | none => exact List.forall_mem_nil _
  | some port =>
      refine List.forall_mem_cons.mpr ⟨by decide, fun c hc => ?_⟩
      have hdigit := Nat.isDigit_of_mem_toDigits (by decide) (by decide) hc
      exact isOutside_of_isHexDigit (isHexDigit_of_isDigit hdigit)

/-- Characters that neither end a host nor open or close brackets are passed. -/
theorem splitHostOnto_append
    {inBrackets : Bool}
    (htext : ∀ c ∈ text, endsAuthority false c = false ∧ c ≠ '[' ∧ c ≠ ']' ∧
      (c = ':' → inBrackets = true))
    (passed rest : List Char) :
    splitHostOnto false inBrackets passed (text ++ rest) =
      splitHostOnto false inBrackets (text.reverse ++ passed) rest := by
  induction text generalizing passed with
  | nil => rfl
  | cons c others ih =>
      obtain ⟨⟨hend, hopening, hclosing, hcolon⟩, hothers⟩ := List.forall_mem_cons.mp htext
      have hpassed : ¬(endsAuthority false c || (c == ':' && !inBrackets)) = true := by
        cases inBrackets <;> simp_all
      rw [List.cons_append, splitHostOnto, if_neg hpassed]
      simp only [beq_eq_false_iff_ne.mpr hopening, beq_eq_false_iff_ne.mpr hclosing,
        Bool.false_eq_true, if_false]
      rw [ih hothers]
      simp

theorem splitHostOnto_of_end
    (hrest : ∀ c ∈ rest.head?, endsAuthority false c = true ∨ c = ':') (passed : List Char) :
    splitHostOnto false false passed rest = (passed.reverse, rest) := by
  cases rest with
  | nil => rfl
  | cons c rest =>
      have hstop : (endsAuthority false c || (c == ':' && !false)) = true := by
        simpa using hrest c rfl
      rw [splitHostOnto, if_pos hstop]

theorem splitHostOnto_render
    {host : Host} (hhost : host.Plain)
    (hrest : ∀ c ∈ rest.head?, endsAuthority false c = true ∨ c = ':') :
    splitHostOnto false false [] (host.render.toList ++ rest) = (host.render.toList, rest) := by
  have hends : ∀ c, isOutside c = false → endsAuthority false c = false := by
    intro c hc
    simp_all [isOutside]
  have houtside := hhost.isOutside_eq_false
  cases hhost with
  | @name name htext =>
      have hpassed : ∀ c ∈ name.toList, endsAuthority false c = false ∧ c ≠ '[' ∧ c ≠ ']' ∧
          (c = ':' → false = true) := by
        intro c hc
        refine ⟨hends c (houtside c hc), ?_, ?_, ?_⟩ <;>
        · rintro rfl
          exact absurd hc (htext.not_mem (by decide))
      rw [Host.render, splitHostOnto_append hpassed, splitHostOnto_of_end hrest]
      simp
  | @ipv6 pieces =>
      have hpassed : ∀ c ∈ (renderIpv6 pieces).toList, endsAuthority false c = false ∧ c ≠ '[' ∧
          c ≠ ']' ∧ (c = ':' → true = true) := by
        intro c hc
        rcases mem_renderIpv6 hc with rfl | hdigit
        · decide
        · refine ⟨hends c (isOutside_of_isHexDigit hdigit), ?_, ?_, fun _ => rfl⟩ <;>
          · rintro rfl
            exact absurd hdigit (by decide)
      rw [toList_render_ipv6, List.cons_append, List.append_assoc, List.singleton_append]
      -- between the brackets a colon does not end the host
      change splitHostOnto false true ['['] ((renderIpv6 pieces).toList ++ ']' :: rest) = _
      rw [splitHostOnto_append hpassed]
      change splitHostOnto false false (']' :: ((renderIpv6 pieces).toList.reverse ++ ['['])) rest =
        _
      rw [splitHostOnto_of_end hrest]
      simp

/-- A host that can stand with a port: without a name there is no port. -/
structure Reachable (host : Host) (port : Option ℕ) : Prop where
  plain : host.Plain
  bounded : ∀ number ∈ port, number ≤ 65535
  named : host = .name "" → port = none

theorem portBehind_portText
    {port : Option ℕ} (hport : ∀ number ∈ port, number ≤ 65535) (hrest : EndsAuthority rest) :
    portBehind .other (portText port ++ rest) = .ok (port, rest) := by
  cases port with
  | some port =>
      have hread := readPort_toDigits (hport port rfl) rest
      rw [readPort_of_end hrest] at hread
      rw [portText, List.cons_append, portBehind, hread]
      · rfl
      · exact fun usual heq => SchemeKind.noConfusion heq
  | none =>
      rw [portText, List.nil_append]
      cases rest with
      | nil => rfl
      | cons c rest =>
          rw [portBehind]
          rintro others heq
          obtain ⟨rfl, -⟩ := List.cons.inj heq
          exact absurd (hrest ':' rfl) (by decide)

theorem readHost_render
    {host : Host} {port : Option ℕ} (hreach : Reachable host port) (hrest : EndsAuthority rest) :
    readHost .other (host.render.toList ++ portText port ++ rest) = .ok (host, port, rest) := by
  have hbehind : ∀ c ∈ (portText port ++ rest).head?, endsAuthority false c = true ∨ c = ':' := by
    cases port with
    | some port =>
        rintro c ⟨⟩
        exact .inr rfl
    | none => exact fun c hc => .inl (hrest c hc)
  have hnamed : (decide (host = .name "") && (portText port ++ rest).head? == some ':') =
      false := by
    rw [Bool.and_eq_false_iff, decide_eq_false_iff_not, beq_eq_false_iff_ne]
    by_cases hname : host = .name ""
    · refine .inr fun hhead => ?_
      rw [hreach.named hname] at hhead
      exact absurd (hrest ':' hhead) (by decide)
    · exact .inl hname
  rw [List.append_assoc, readHost]
  simp only [SchemeKind.isSpecial, splitHostOnto_render hreach.plain hbehind, Bool.false_and,
    Bool.false_eq_true, if_false, plainHost_render hreach.plain, hnamed,
    portBehind_portText hreach.bounded hrest, bind, Except.bind, pure, Except.pure]

theorem bounded_of_portBehind
    {port : Option ℕ} (hport : portBehind .other text = .ok (port, rest)) :
    (∀ number ∈ port, number ≤ 65535) ∧ (text.head? ≠ some ':' → port = none) := by
  unfold portBehind at hport
  split at hport
  next digits =>
    obtain ⟨pair, hread, heq⟩ := exists_of_bind_eq_ok hport
    obtain rfl : pair.1 = port := by
      have hfound := congrArg Prod.fst (Except.ok.inj heq)
      dsimp only at hfound
      split at hfound
      next hnone => rw [← hfound, beq_iff_eq.mp hnone]
      next => exact hfound
    exact ⟨le_of_readPort hread (by simp), fun hhead => absurd rfl hhead⟩
  next =>
    cases hport
    exact ⟨by simp, fun _ => rfl⟩

theorem reachable_of_readHost
    {host : Host} {port : Option ℕ} (hread : readHost .other text = .ok (host, port, rest)) :
    Reachable host port := by
  rw [readHost_other] at hread
  obtain ⟨found, hhost, hread⟩ := exists_of_bind_eq_ok hread
  split at hread
  next => cases hread
  next hcolon =>
    obtain ⟨pair, hport, heq⟩ := exists_of_map_eq_ok hread
    cases heq
    obtain ⟨hbounded, hnone⟩ := bounded_of_portBehind hport
    refine ⟨plain_of_plainHost hhost, hbounded, fun hname => hnone fun hhead => ?_⟩
    exact hcolon ⟨hname, hhead⟩

/-! ## Authorities -/

/-- An authority as it is read where the scheme is not special. -/
structure Authority.Plain (authority : Authority) : Prop where
  username : Encoded userinfoSet authority.username.toList
  password : ∀ password ∈ authority.password,
    password ≠ "" ∧ Encoded userinfoSet password.toList
  reachable : Reachable authority.host authority.port
  named : authority.host = .name "" → authority.username = "" ∧ authority.password = none

theorem readUserinfo_name (userinfo : List Char) :
    Encoded userinfoSet (readUserinfo userinfo).1.toList := by
  rw [readUserinfo, String.toList_ofList]
  exact encoded_percentEncode sparesPercent_userinfoSet _

theorem readUserinfo_password (userinfo : List Char) :
    ∀ password ∈ (readUserinfo userinfo).2,
      password ≠ "" ∧ Encoded userinfoSet password.toList := by
  intro password hpassword
  unfold readUserinfo at hpassword
  dsimp only at hpassword
  split at hpassword
  next => cases hpassword
  next hsome =>
    cases hpassword
    rw [ne_eq, ← String.toList_eq_nil_iff, String.toList_ofList, percentEncode_eq_nil_iff]
    exact ⟨fun hnil => hsome (List.isEmpty_iff.mpr hnil),
      encoded_percentEncode sparesPercent_userinfoSet _⟩

theorem plain_of_readAuthority
    {authority : Authority} (hread : readAuthority .other text = .ok (authority, rest)) :
    authority.Plain := by
  cases hlast : Text.splitAtLast? '@' (authorityText .other text) with
  | none =>
      rw [readAuthority_of_none hlast] at hread
      obtain ⟨found, hhost, heq⟩ := exists_of_map_eq_ok hread
      cases heq
      exact ⟨List.forall_mem_nil _, by simp, reachable_of_readHost hhost, fun _ => ⟨rfl, rfl⟩⟩
  | some parts =>
      rw [readAuthority_of_some hlast] at hread
      split at hread
      next => cases hread
      next =>
        obtain ⟨found, hhost, hread⟩ := exists_of_bind_eq_ok hread
        split at hread
        next => cases hread
        next hnamed =>
          cases hread
          exact ⟨readUserinfo_name parts.1, readUserinfo_password parts.1,
            reachable_of_readHost hhost, fun hname => not_not.mp fun huser => hnamed ⟨hname, huser⟩⟩

/-! ## Reading back -/

variable {authority : Authority}

theorem toList_render_authority (authority : Authority) :
    authority.render.toList =
      authority.renderUser.toList ++ (authority.host.render.toList ++ portText authority.port) := by
  rw [Authority.render, String.toList_append, String.toList_append, List.append_assoc]
  congr 2
  cases authority.port with
  | none => rfl
  | some port => simp [portText, Nat.toList_repr]

theorem readUserinfo_of_name {name : String} (hname : Encoded userinfoSet name.toList) :
    readUserinfo name.toList = (name, none) := by
  have hspan : (name.toList ++ []).span (· != ':') = (name.toList, []) := by
    refine Text.span_append (fun c hc => ?_) (by simp)
    simpa using fun heq : c = ':' => hname.not_mem (by decide) (heq ▸ hc)
  rw [List.append_nil] at hspan
  rw [readUserinfo, hspan]
  simp [percentEncode_of_encoded hname]

theorem readUserinfo_of_password
    {name password : String} (hname : Encoded userinfoSet name.toList) (hsome : password ≠ "")
    (hpassword : Encoded userinfoSet password.toList) :
    readUserinfo (name.toList ++ ':' :: password.toList) = (name, some password) := by
  have hspan : (name.toList ++ ':' :: password.toList).span (· != ':') =
      (name.toList, ':' :: password.toList) := by
    refine Text.span_append (fun c hc => ?_) (by simp)
    simpa using fun heq : c = ':' => hname.not_mem (by decide) (heq ▸ hc)
  rw [readUserinfo, hspan]
  simp [percentEncode_of_encoded hname, percentEncode_of_encoded hpassword, hsome]

/-- The user of an authority: none, or what stands in front of the sign. -/
theorem Authority.Plain.user_cases (hauthority : authority.Plain) :
    authority.username = "" ∧ authority.password = none ∧ authority.renderUser.toList = [] ∨
      ∃ userinfo, userinfo ≠ [] ∧ authority.renderUser.toList = userinfo ++ ['@'] ∧
        (∀ c ∈ userinfo, (endsAuthority false c || isControlOrBlank c) = false) ∧
        readUserinfo userinfo = (authority.username, authority.password) := by
  have hname := hauthority.username
  have hvisible : ∀ text, Encoded userinfoSet text →
      ∀ c ∈ text, (endsAuthority false c || isControlOrBlank c) = false :=
    fun text htext => htext.forall_eq_false (by decide)
  cases hpassword : authority.password with
  | some password =>
      obtain ⟨hsome, hencoded⟩ := hauthority.password password hpassword
      refine .inr ⟨authority.username.toList ++ ':' :: password.toList, by simp, ?_, ?_,
        readUserinfo_of_password hname hsome hencoded⟩
      · simp [Authority.renderUser, hpassword]
      · refine List.forall_mem_append.mpr ⟨hvisible _ hname, ?_⟩
        exact List.forall_mem_cons.mpr ⟨by decide, hvisible _ hencoded⟩
  | none =>
      by_cases hempty : authority.username = ""
      · exact .inl ⟨hempty, rfl, by simp [Authority.renderUser, hpassword, hempty]⟩
      · refine .inr ⟨authority.username.toList, by simpa using hempty, ?_, hvisible _ hname,
          readUserinfo_of_name hname⟩
        simp [Authority.renderUser, hpassword, hempty]

theorem isOutside_server {host : Host} {port : Option ℕ} (hreach : Reachable host port) :
    ∀ c ∈ host.render.toList ++ portText port, isOutside c = false :=
  List.forall_mem_append.mpr ⟨hreach.plain.isOutside_eq_false, isOutside_portText port⟩

theorem Authority.Plain.signs (hauthority : authority.Plain) :
    ∀ c ∈ authority.render.toList, (endsAuthority false c || isControlOrBlank c) = false := by
  have hserver : ∀ c ∈ authority.host.render.toList ++ portText authority.port,
      (endsAuthority false c || isControlOrBlank c) = false := by
    intro c hc
    have houtside := isOutside_server hauthority.reachable c hc
    simp_all [isOutside]
  rw [toList_render_authority]
  refine List.forall_mem_append.mpr ⟨?_, hserver⟩
  rcases hauthority.user_cases with ⟨-, -, hnone⟩ | ⟨userinfo, -, huser, hsigns, -⟩
  · rw [hnone]
    exact List.forall_mem_nil _
  · rw [huser]
    exact List.forall_mem_append.mpr ⟨hsigns, List.forall_mem_singleton.mpr (by decide)⟩

theorem readAuthority_render (hauthority : authority.Plain) (hrest : EndsAuthority rest) :
    readAuthority .other (authority.render.toList ++ rest) = .ok (authority, rest) := by
  have hspan : (authority.render.toList ++ rest).span (fun c => !endsAuthority false c) =
      (authority.render.toList, rest) := by
    refine Text.span_append (fun c hc => ?_) (fun c hc => by simp [hrest c hc])
    have hsign := hauthority.signs c hc
    simp_all
  rw [List.span_eq_takeWhile_dropWhile] at hspan
  have hauthorityText : authorityText .other (authority.render.toList ++ rest) =
      authority.render.toList := (Prod.mk.inj hspan).1
  have hbehind : behindAuthority .other (authority.render.toList ++ rest) = rest :=
    (Prod.mk.inj hspan).2
  have hhost := readHost_render hauthority.reachable hrest
  have hat : '@' ∉ authority.host.render.toList ++ portText authority.port := fun hmem =>
    absurd (isOutside_server hauthority.reachable '@' hmem) (by decide)
  rcases hauthority.user_cases with ⟨hname, hpassword, hnone⟩ | ⟨userinfo, hsome, huser, -, hread⟩
  · have hlast : Text.splitAtLast? '@' (authorityText .other (authority.render.toList ++ rest)) =
        none := by
      rw [hauthorityText, toList_render_authority, hnone, List.nil_append,
        Text.splitAtLast?_eq_none hat]
    rw [readAuthority_of_none hlast, toList_render_authority, hnone, List.nil_append, hhost,
      Except.map, ← hname, ← hpassword]
  · have hlast : Text.splitAtLast? '@' (authorityText .other (authority.render.toList ++ rest)) =
        some (userinfo, authority.host.render.toList ++ portText authority.port) := by
      rw [hauthorityText, toList_render_authority, huser, List.append_assoc, List.singleton_append,
        Text.splitAtLast?_append hat]
    have hnamed : ¬(authority.host = .name "" ∧
        ¬(authority.username = "" ∧ authority.password = none)) := fun hname =>
      hname.2 (hauthority.named hname.1)
    rw [readAuthority_of_some hlast, if_neg (fun hempty => hsome hempty.1), hbehind, hhost, hread]
    exact if_neg hnamed

end SqlPipe.Url
