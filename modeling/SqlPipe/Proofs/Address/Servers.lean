import SqlPipe.Address
import SqlPipe.Proofs.Text.Splitting
import Mathlib.Data.Bool.AllAny

/-!
# Servers of MySQL addresses

A server between the brackets of `tcp(…)` means the same as the server alone, and `tcp` without
brackets means the same as no server.  The brackets are looked for behind the last `@` of what
stands in front of the first slash or question mark, so neither a name nor a password nor what
follows the server has a part in it, whatever signs they hold.
-/

namespace SqlPipe

namespace Mysql

/-- What stands behind the scheme of an address comes in three parts: the user with the `@` behind
it, the server, and the rest from the first slash or question mark on. -/
structure Separated (userinfo server behind : List Char) : Prop where
  user : userinfo = [] ∨ ∃ front, userinfo = front ++ ['@']
  user_signs : ∀ c ∈ userinfo, c ≠ '/' ∧ c ≠ '?'
  server_signs : ∀ c ∈ server, c ≠ '/' ∧ c ≠ '?' ∧ c ≠ '@'
  behind_sign : ∀ c ∈ behind.head?, c = '/' ∨ c = '?'

variable {userinfo server other behind : List Char}

theorem Separated.withServer
    (hparts : Separated userinfo server behind)
    (hother : ∀ c ∈ other, c ≠ '/' ∧ c ≠ '?' ∧ c ≠ '@') : Separated userinfo other behind :=
  ⟨hparts.user, hparts.user_signs, hother, hparts.behind_sign⟩

/-- The server is brought into its plain form between the two other parts. -/
theorem Separated.plainRest_eq (hparts : Separated userinfo server behind) :
    plainRest (userinfo ++ server ++ behind) =
      if Text.occursIn "unix(".toList (userinfo ++ server ++ behind) then
        .error (.address "unix socket MySQL addresses are not supported")
      else (plainServer server).map (userinfo ++ · ++ behind) := by
  have hspan : (userinfo ++ server ++ behind).span (fun c => c != '/' && c != '?') =
      (userinfo ++ server, behind) := by
    apply Text.span_append
    · intro c hc
      rcases List.mem_append.mp hc with huser | hserver
      · simpa using hparts.user_signs c huser
      · obtain ⟨hslash, hquestion, -⟩ := hparts.server_signs c hserver
        simp [hslash, hquestion]
    · intro c hc
      rcases hparts.behind_sign c hc with rfl | rfl <;> decide
  have hno : '@' ∉ server := fun hmem => (hparts.server_signs '@' hmem).2.2 rfl
  unfold plainRest
  rw [hspan]
  by_cases hsocket : Text.occursIn "unix(".toList (userinfo ++ server ++ behind) = true
  · rw [if_pos hsocket, if_pos hsocket]
    rfl
  · rw [if_neg hsocket, if_neg hsocket]
    rcases hparts.user with rfl | ⟨front, rfl⟩
    · rw [List.nil_append]
      simp only [Text.splitAtLast?_eq_none hno]
      cases plainServer server <;> rfl
    · have hlast : Text.splitAtLast? '@' (front ++ ['@'] ++ server) = some (front, server) := by
        rw [List.append_assoc, List.singleton_append, Text.splitAtLast?_append hno]
      simp only [hlast]
      cases plainServer server with
      | error failure => rfl
      | ok plain => simp [pure, Except.pure, Except.map, bind, Except.bind]

/-! ## Sockets -/

/-- The sign of a socket begins with a character that the other text does not hold. -/
theorem infix_append_of_first
    {p : Char} {part front text : List Char} (hfront : p ∉ front) :
    p :: part <:+: front ++ text ↔ p :: part <:+: text := by
  induction front with
  | nil => rfl
  | cons c front ih =>
      obtain ⟨hc, hothers⟩ := not_or.mp (List.mem_cons.not.mp hfront)
      rw [List.cons_append, List.infix_cons_iff, ih hothers, List.cons_prefix_cons]
      exact or_iff_right fun hbegins => hc hbegins.1

theorem infix_concat_iff {d : Char} {part : List Char} (hd : d ∉ part) (front : List Char) :
    part <:+: front ++ [d] ↔ part <:+: front := by
  rw [Text.infix_around_iff hd, List.infix_nil, or_iff_left_iff_imp]
  rintro rfl
  exact List.nil_infix

theorem infix_cons_iff_of_not_mem
    {d : Char} {part : List Char} (hd : d ∉ part) (behind : List Char) :
    part <:+: d :: behind ↔ part <:+: behind := by
  rw [← List.nil_append (d :: behind), Text.infix_around_iff hd, List.infix_nil,
    or_iff_right_iff_imp]
  rintro rfl
  exact List.nil_infix

/-- A socket is named in the user, in the server or behind both, and nowhere between. -/
theorem Separated.socket_iff (hparts : Separated userinfo server behind) :
    "unix(".toList <:+: userinfo ++ server ++ behind ↔
      "unix(".toList <:+: userinfo ∨ "unix(".toList <:+: server ∨ "unix(".toList <:+: behind := by
  have hbehind : "unix(".toList <:+: server ++ behind ↔
      "unix(".toList <:+: server ∨ "unix(".toList <:+: behind := by
    cases behind with
    | nil => simp
    | cons c rest =>
        have hc : c ∉ "unix(".toList := by
          rcases hparts.behind_sign c rfl with rfl | rfl <;> decide
        rw [Text.infix_around_iff hc, infix_cons_iff_of_not_mem hc]
  rw [List.append_assoc]
  rcases hparts.user with rfl | ⟨front, rfl⟩
  · rw [List.nil_append, hbehind, List.infix_nil]
    simp
  · have hat : '@' ∉ "unix(".toList := by decide
    rw [infix_concat_iff hat, List.append_assoc, List.singleton_append, Text.infix_around_iff hat,
      hbehind]

/-- Two servers of one plain form that name a socket both or neither make the same address. -/
theorem Separated.plainRest_congr
    (hparts : Separated userinfo server behind)
    (hother : ∀ c ∈ other, c ≠ '/' ∧ c ≠ '?' ∧ c ≠ '@')
    (hplain : plainServer server = plainServer other)
    (hsocket : "unix(".toList <:+: server ↔ "unix(".toList <:+: other) :
    plainRest (userinfo ++ server ++ behind) = plainRest (userinfo ++ other ++ behind) := by
  have hparts' := hparts.withServer hother
  have hoccurs : Text.occursIn "unix(".toList (userinfo ++ server ++ behind) =
      Text.occursIn "unix(".toList (userinfo ++ other ++ behind) := by
    rw [Bool.eq_iff_iff, Text.occursIn_iff, Text.occursIn_iff, hparts.socket_iff,
      hparts'.socket_iff, hsocket]
  rw [hparts.plainRest_eq, hparts'.plainRest_eq, hoccurs, hplain]

/-! ## Brackets -/

theorem plainServer_bracketed (server : List Char) :
    plainServer ("tcp(".toList ++ server ++ ")".toList) =
      .ok (if server = [] then defaultServer else server) := by
  have hafter : Text.after? "tcp(".toList ("tcp(".toList ++ server ++ ")".toList) =
      some (server ++ ")".toList) := Text.after?_eq_some_iff.mpr (List.append_assoc _ _ _)
  have hlast : (server ++ ")".toList).getLast? = some ')' := by simp
  have hfront : (server ++ ")".toList).dropLast = server := by simp
  unfold plainServer
  rw [hafter]
  simp only [hlast, if_true, hfront, List.isEmpty_iff]
  rfl

theorem plainServer_of_plain
    (htcp : server ≠ "tcp".toList) (hbracket : ¬"tcp(".toList <+: server) :
    plainServer server = .ok (if server = [] then defaultServer else server) := by
  have hafter : Text.after? "tcp(".toList server = none := by
    rw [Option.eq_none_iff_forall_not_mem]
    intro rest hrest
    exact hbracket ⟨rest, (Text.after?_eq_some_iff.mp hrest).symm⟩
  unfold plainServer
  rw [hafter]
  simp only [if_neg htcp, List.isEmpty_iff]
  rfl

/-! ## The text of a connection -/

theorem plainUrl_eq (rest : List Char) :
    plainUrl rest = (plainRest rest).bind fun plain =>
      match Url.parse (String.ofList ("mysql://".toList ++ plain)) with
      | .ok url => .ok (String.ofList ("mysql://".toList ++ plain), url)
      | .error fault => .error (.address fault.message) := by
  rw [plainUrl]
  cases plainRest rest with
  | error failure => simp only [bind, Except.bind]
  | ok plain =>
      cases hread : Url.parse (String.ofList ("mysql://".toList ++ plain)) with
      | error fault =>
          simp only [bind, Except.bind, hread, throw, throwThe, MonadExceptOf.throw]
      | ok url => simp only [bind, Except.bind, hread, pure, Except.pure]

theorem connectionText_eq (rest : List Char) :
    connectionText rest = (plainUrl rest).map fun found =>
      match found.2.query with
      | none => found.1
      | some query => ({ found.2 with query := translateQuery query } : Url).render := by
  rw [connectionText]
  cases plainUrl rest with
  | error failure => rfl
  | ok found =>
      obtain ⟨text, url⟩ := found
      simp only [bind, Except.bind, pure, Except.pure, Except.map]
      cases url.query <;> rfl

theorem connectionText_congr
    {rest others : List Char} (hplain : plainRest rest = plainRest others) :
    connectionText rest = connectionText others := by
  rw [connectionText_eq, connectionText_eq, plainUrl_eq, plainUrl_eq, hplain]

end Mysql

namespace DatabaseAddress

theorem parse_mysql (rest : List Char) :
    parse ("mysql://".toList ++ rest) = (Mysql.connectionText rest).map (⟨.mysql, ·⟩) := rfl

/-- A MySQL address says the same whether its server stands in the brackets of `tcp(…)` or alone,
where a server that is not named is the usual one; and `tcp` alone names none. -/
theorem parse_bracketed_server
    {userinfo server behind : List Char} (hparts : Mysql.Separated userinfo server behind)
    (htcp : server ≠ "tcp".toList) (hbracket : ¬"tcp(".toList <+: server) :
    let address (server : List Char) := "mysql://".toList ++ (userinfo ++ server ++ behind)
    let plain := if server = [] then "127.0.0.1:3306".toList else server
    parse (address ("tcp(".toList ++ server ++ ")".toList)) = parse (address plain) ∧
      parse (address "tcp".toList) = parse (address []) := by
  intro address plain
  have hplainSigns : ∀ c ∈ plain, c ≠ '/' ∧ c ≠ '?' ∧ c ≠ '@' := by
    by_cases hempty : server = []
    · rw [show plain = "127.0.0.1:3306".toList from if_pos hempty]
      exact List.all_iff_forall_prop.mp (by decide)
    · rw [show plain = server from if_neg hempty]
      exact hparts.server_signs
  have hbracketed : ∀ c ∈ "tcp(".toList ++ server ++ ")".toList, c ≠ '/' ∧ c ≠ '?' ∧ c ≠ '@' := by
    rw [List.forall_mem_append, List.forall_mem_append]
    exact ⟨⟨List.all_iff_forall_prop.mp (by decide), hparts.server_signs⟩,
      List.all_iff_forall_prop.mp (by decide)⟩
  have hplain : Mysql.plainServer ("tcp(".toList ++ server ++ ")".toList) =
      Mysql.plainServer plain := by
    rw [Mysql.plainServer_bracketed]
    by_cases hempty : server = []
    · rw [show plain = "127.0.0.1:3306".toList from if_pos hempty, if_pos hempty]
      rfl
    · rw [show plain = server from if_neg hempty, Mysql.plainServer_of_plain htcp hbracket]
  -- a socket cannot begin inside of the sign of a server, so the brackets hide none and make none
  have hsocket : "unix(".toList <:+: "tcp(".toList ++ server ++ ")".toList ↔
      "unix(".toList <:+: plain := by
    have hinside : "unix(".toList <:+: server ++ ")".toList ↔ "unix(".toList <:+: server :=
      Mysql.infix_concat_iff (by decide) server
    rw [List.append_assoc, show "unix(".toList = 'u' :: "nix(".toList from rfl,
      Mysql.infix_append_of_first (by decide)]
    rw [show 'u' :: "nix(".toList = "unix(".toList from rfl, hinside]
    by_cases hempty : server = []
    · rw [show plain = "127.0.0.1:3306".toList from if_pos hempty, hempty, ← Text.occursIn_iff,
        ← Text.occursIn_iff]
      decide
    · rw [show plain = server from if_neg hempty]
  constructor
  · have hrest := (hparts.withServer hbracketed).plainRest_congr hplainSigns hplain hsocket
    rw [parse_mysql, parse_mysql, Mysql.connectionText_congr hrest]
  · have hnamed : Mysql.Separated userinfo "tcp".toList behind :=
      hparts.withServer (List.all_iff_forall_prop.mp (by decide))
    have hnone : ∀ c ∈ ([] : List Char), c ≠ '/' ∧ c ≠ '?' ∧ c ≠ '@' := List.forall_mem_nil _
    have hrest := hnamed.plainRest_congr hnone rfl
      (by rw [← Text.occursIn_iff, ← Text.occursIn_iff]; decide)
    rw [parse_mysql, parse_mysql, Mysql.connectionText_congr hrest]

/-- A password that holds the signs of a server, and a path that holds those of another one. -/
theorem parse_bracketed_server_of_odd_password :
    let userinfo := "root:a@tcp(b:c@".toList
    let behind := "/app@tcp(x)?tls=true".toList
    Mysql.Separated userinfo "db:3307".toList behind ∧
      "db:3307".toList ≠ "tcp".toList ∧ ¬"tcp(".toList <+: "db:3307".toList ∧
      parse ("mysql://".toList ++ (userinfo ++ "tcp(db:3307)".toList ++ behind)) =
        .ok ⟨.mysql,
          "mysql://root:a%40tcp(b%3Ac@db:3307/app@tcp(x)?require_ssl=true"⟩ := by
  intro userinfo behind
  have hparts : Mysql.Separated userinfo "db:3307".toList behind := by
    refine ⟨.inr ⟨"root:a@tcp(b:c".toList, rfl⟩, List.all_iff_forall_prop.mp (by decide),
      List.all_iff_forall_prop.mp (by decide), ?_⟩
    rintro c ⟨⟩
    exact .inl rfl
  have htcp : "db:3307".toList ≠ "tcp".toList := by decide
  have hbracket : ¬"tcp(".toList <+: "db:3307".toList := by decide
  have hevaluated : parse ("mysql://".toList ++ (userinfo ++ "db:3307".toList ++ behind)) =
      .ok ⟨.mysql, "mysql://root:a%40tcp(b%3Ac@db:3307/app@tcp(x)?require_ssl=true"⟩ := by
    decide +kernel
  exact ⟨hparts, htcp, hbracket, (parse_bracketed_server hparts htcp hbracket).1.trans hevaluated⟩

end DatabaseAddress

end SqlPipe
