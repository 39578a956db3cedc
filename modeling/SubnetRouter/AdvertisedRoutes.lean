import SubnetRouter.FourVia6Prefix

namespace SubnetRouter.AdvertisedRoutes

/-!
# Advertised routes (`main/tailscale_manager.c`, `main/fourvia6.c`)

`tailscale_connect` builds the list of advertised routes in a buffer of 512 bytes: the stored
list, the 4via6 prefix and the two exit-node routes, one route a line.  Only the last of the
three writers looks at the room that is left.

* `effectiveRoutes_eq` — the first two writers leave a prefix of the whole text.
* `lines_take_iff` — the lines of a text that is cut are never those of the whole.
* `connect_intact_iff` — when the list that is handed over is the configured one.
-/

/-- A C string. -/
abbrev Text := List Char

/-- The routes of a list, one a line. -/
def lines (t : Text) : List Text := if t.isEmpty then [] else t.splitOn '\n'

/-! ### The writers -/

/-- What `fourvia6.c` contributes: whether it is enabled, and `s_prefix_text`. -/
structure Via where
  enabled : Bool
  prefixText : Text
  one_line : '\n' ∉ prefixText

/-- The prefix is advertised: `s_enabled && s_prefix_text[0]`. -/
def Via.adds (v : Via) : Bool := v.enabled && !v.prefixText.isEmpty

/-- `strlcpy` into a buffer of `size` bytes. -/
def strlcpy (size : Nat) (text : Text) : Text := text.take (size - 1)

/-- `snprintf(out + used, size - used, …)` behind what the buffer holds. -/
def snprintfAt (size : Nat) (out text : Text) : Text := out ++ text.take (size - out.length - 1)

/-- `used ? "\n" : ""`. -/
def separator (out : Text) : Text := if out.isEmpty then [] else ['\n']

/-- `fourvia6_effective_routes`: the routes of the settings, and the 4via6 prefix behind them. Both
    are cut where the caller's buffer ends. -/
def effectiveRoutes (ipv4Routes : Option Text) (via : Via) (outSize : Nat) : Text :=
  let out :=
    match ipv4Routes with
    | some routes => if routes.isEmpty then [] else strlcpy outSize routes
    | none => []
  if via.adds then snprintfAt outSize out (separator out ++ via.prefixText) else out

/-- `"0.0.0.0/0\n::/0"`. -/
def exitRoutes : Text := "0.0.0.0/0\n::/0".toList

/-- `sizeof effective_routes`. -/
def effectiveRoutesSize : Nat := 512

/-! ### Connecting -/

/-- The settings that `tailscale_connect` reads, and how microlink answers. The keys that do not
    decide about the routes are left out. -/
structure Settings where
  enabled : Bool
  authKey : Option Text
  advertiseRoutes : Option Text
  via : Via
  advertiseExitNode : Bool
  initSucceeds : Bool
  startSucceeds : Bool

/-- Why `tailscale_connect` fails; microlink is handed nothing but in the last two cases, and
    is not running in any. -/
inductive Failure where
  | invalidState
  | invalidArg
  | invalidSize
  | initFailed
  | startFailed
deriving DecidableEq, Repr

/-- The list that `tailscale_connect` assembles; `none` when the exit-node routes do not fit. They
    are checked against what is left of the buffer, where the subnet routes are not. -/
def assembleRoutes (c : Settings) : Option Text :=
  let effective := effectiveRoutes c.advertiseRoutes c.via effectiveRoutesSize
  if c.advertiseExitNode then
    let exit := separator effective ++ exitRoutes
    if effectiveRoutesSize - effective.length ≤ exit.length then none
    else some (snprintfAt effectiveRoutesSize effective exit)
  else some effective

/-- `tailscale_connect`: the failure, or the `advertise_routes` of the instance that runs. An empty
    list is handed over as a null pointer. -/
def tailscaleConnect (c : Settings) : Except Failure (Option Text) :=
  if !c.enabled then .error .invalidState
  else if (c.authKey.getD []).isEmpty then .error .invalidArg
  else
    match assembleRoutes c with
    | none => .error .invalidSize
    | some effective =>
      if !c.initSucceeds then .error .initFailed
      else if !c.startSucceeds then .error .startFailed
      else .ok (if effective.isEmpty then none else some effective)

/-! ### The configured list -/

namespace Settings

/-- The stored list; empty when there is none. -/
def routes (c : Settings) : Text := c.advertiseRoutes.getD []

/-- The routes that are configured: the stored ones, the 4via6 prefix, and both default routes
    of an exit node. -/
def configured (c : Settings) : List Text :=
  lines c.routes ++ (if c.via.adds then [c.via.prefixText] else []) ++
    (if c.advertiseExitNode then ["0.0.0.0/0".toList, "::/0".toList] else [])

/-- The stored list and the 4via6 prefix, as one text. -/
def full (c : Settings) : Text :=
  c.routes ++ (if c.via.adds then separator c.routes ++ c.via.prefixText else [])

/-- Microlink does not run, or runs with the configured routes. -/
def Intact (c : Settings) : Prop :=
  ∀ handed, tailscaleConnect c = .ok handed → lines (handed.getD []) = c.configured

end Settings

/-! ### Lines -/

theorem lines_ne_nil {t : Text} (h : t ≠ []) : lines t = t.splitOn '\n' := by
  have hne : t.isEmpty = false := by simpa using h
  rw [lines, hne]
  rfl

/-- Different texts have different lines. -/
theorem lines_inj {s t : Text} : lines s = lines t ↔ s = t := by
  refine ⟨fun h => ?_, fun h => h ▸ rfl⟩
  by_cases hs : s = []
  · by_cases ht : t = []
    · rw [hs, ht]
    · rw [hs, lines_ne_nil ht] at h
      exact absurd h.symm (List.splitOn_ne_nil '\n' t)
  · by_cases ht : t = []
    · rw [ht, lines_ne_nil hs] at h
      exact absurd h (List.splitOn_ne_nil '\n' s)
    · rw [lines_ne_nil hs, lines_ne_nil ht] at h
      calc s = ['\n'].intercalate (s.splitOn '\n') := (List.intercalate_splitOn '\n').symm
        _ = ['\n'].intercalate (t.splitOn '\n') := by rw [h]
        _ = t := List.intercalate_splitOn '\n'

/-- A text that is joined to another by the separator adds its lines. -/
theorem lines_append (s : Text) {t : Text} (ht : t ≠ []) :
    lines (s ++ (separator s ++ t)) = lines s ++ lines t := by
  by_cases hs : s = []
  · subst hs
    rfl
  · have hne : s.isEmpty = false := by simpa using hs
    rw [separator, hne, lines_ne_nil hs, lines_ne_nil ht, lines_ne_nil (by simp [hs])]
    exact List.splitOn_append_cons_self s t

theorem lines_singleton {t : Text} (ht : t ≠ []) (hone : '\n' ∉ t) : lines t = [t] := by
  rw [lines_ne_nil ht, List.splitOn_eq_singleton hone]

/-- The lines of a text that is cut are those of the whole only if nothing is cut off. -/
theorem lines_take_iff {t : Text} {n : Nat} : lines (t.take n) = lines t ↔ t.length ≤ n := by
  rw [lines_inj]
  refine ⟨fun h => ?_, List.take_of_length_le⟩
  have hlen := congrArg List.length h
  rw [List.length_take] at hlen
  omega

/-! ### The buffer -/

variable {c : Settings}

/-- **The first two writers** leave what fits of the list and the prefix. -/
theorem effectiveRoutes_eq (c : Settings) :
    effectiveRoutes c.advertiseRoutes c.via effectiveRoutesSize = c.full.take 511 := by
  have hout : (match c.advertiseRoutes with
      | some routes => if routes.isEmpty then [] else strlcpy effectiveRoutesSize routes
      | none => []) = c.routes.take 511 := by
    rcases hroutes : c.advertiseRoutes with _ | routes
    · simp [Settings.routes, hroutes]
    · rcases routes with _ | ⟨x, xs⟩ <;>
        simp [Settings.routes, hroutes, strlcpy, effectiveRoutesSize]
  have hsep : separator (c.routes.take 511) = separator c.routes := by
    rcases c.routes with _ | ⟨x, xs⟩ <;> rfl
  simp only [effectiveRoutes, hout, hsep, Settings.full]
  split
  · have hroom : effectiveRoutesSize - (c.routes.take 511).length - 1 = 511 - c.routes.length := by
      rw [List.length_take, effectiveRoutesSize]
      omega
    rw [snprintfAt, hroom]
    exact List.take_append.symm
  · rw [List.append_nil]

/-- Without the exit-node routes, the configured lines are those of the whole text. -/
theorem lines_full (c : Settings) :
    lines c.full = lines c.routes ++ (if c.via.adds then [c.via.prefixText] else []) := by
  unfold Settings.full
  split
  · rename_i hadds
    have hne : c.via.prefixText ≠ [] := by
      simp only [Via.adds, Bool.and_eq_true, Bool.not_eq_true', List.isEmpty_eq_false_iff] at hadds
      exact hadds.2
    rw [lines_append _ hne, lines_singleton hne c.via.one_line]
  · rw [List.append_nil, List.append_nil]

/-! ### What is handed over -/

/-- The steps that do not depend on the routes go well. -/
def Settings.Connects (c : Settings) : Prop :=
  c.enabled = true ∧ c.authKey.getD [] ≠ [] ∧ c.initSucceeds = true ∧ c.startSucceeds = true

instance (c : Settings) : Decidable c.Connects := inferInstanceAs (Decidable (_ ∧ _))

/-- Microlink runs when nothing fails, and is handed the list that was assembled. -/
theorem connect_ok_iff {handed : Option Text} :
    tailscaleConnect c = .ok handed ↔ c.Connects ∧ ∃ text, assembleRoutes c = some text ∧
      handed = if text.isEmpty then none else some text := by
  unfold tailscaleConnect Settings.Connects
  generalize assembleRoutes c = assembled
  by_cases hkey : c.authKey.getD [] = []
  · rcases c.enabled with _ | _ <;> simp [hkey]
  · rcases c.enabled with _ | _
    · simp
    rcases assembled with _ | text
    · simp [hkey]
    rcases c.initSucceeds with _ | _
    · simp [hkey]
    rcases c.startSucceeds with _ | _
    · simp [hkey]
    simpa [hkey] using eq_comm

theorem lines_getD (text : Text) :
    lines ((if text.isEmpty then none else some text).getD []) = lines text := by
  rcases text with _ | ⟨x, xs⟩ <;> rfl

/-- The exit-node routes are two lines. -/
theorem lines_exitRoutes : lines exitRoutes = ["0.0.0.0/0".toList, "::/0".toList] := by
  decide +kernel

/-- Without the exit-node routes, the list is what fits of the stored one and the prefix. -/
theorem assembleRoutes_plain (hexit : c.advertiseExitNode = false) :
    assembleRoutes c = some (c.full.take 511) := by
  rw [assembleRoutes, hexit, effectiveRoutes_eq]
  rfl

/-- With them, it is everything or nothing. They are appended whole, behind a separator if there is
    anything in front. -/
theorem assembleRoutes_exit (hexit : c.advertiseExitNode = true) :
    assembleRoutes c =
      if (c.full ++ (separator c.full ++ exitRoutes)).length ≤ 511 then
        some (c.full ++ (separator c.full ++ exitRoutes))
      else none := by
  have hexitlen : 0 < exitRoutes.length := by decide
  -- The buffer is cut at its end, which does not change whether it begins with a route.
  have hsep : separator (c.full.take 511) = separator c.full := by
    rcases c.full with _ | ⟨x, xs⟩ <;> rfl
  rw [assembleRoutes, hexit, effectiveRoutes_eq]
  simp only [if_true, hsep]
  by_cases hlen : (c.full ++ (separator c.full ++ exitRoutes)).length ≤ 511
  · rw [List.length_append, List.length_append] at hlen
    -- If everything fits, the first `snprintf` has not been cut either.
    have hwhole : c.full.take 511 = c.full := List.take_of_length_le (by omega)
    rw [hwhole, if_neg, if_pos, snprintfAt, List.take_of_length_le]
    · rw [effectiveRoutesSize, List.length_append]
      omega
    · rw [List.length_append, List.length_append]
      exact hlen
    · rw [effectiveRoutesSize, List.length_append]
      omega
  -- Otherwise the second one is told a remaining size that is too small, and gives up.
  · rw [if_pos, if_neg hlen]
    rw [List.length_append, List.length_append] at hlen
    rw [effectiveRoutesSize, List.length_append, List.length_take]
    omega

/-! ### When the list is intact -/

/-- The list and the prefix fit the buffer, terminator included. -/
def Settings.Fits (c : Settings) : Prop := c.full.length ≤ 511

instance (c : Settings) : Decidable c.Fits := inferInstanceAs (Decidable (_ ≤ _))

/-- **When the routes are intact.** Microlink is handed other routes than the configured ones
    exactly when it runs, no exit node is advertised, and the stored list with the 4via6
    prefix is longer than 511 characters. -/
theorem connect_intact_iff (c : Settings) :
    c.Intact ↔ ¬ c.Connects ∨ c.advertiseExitNode = true ∨ c.Fits := by
  unfold Settings.Intact
  simp only [connect_ok_iff]
  by_cases hconnects : c.Connects
  · by_cases hexit : c.advertiseExitNode = true
    -- the exit-node routes check the room: they fail, or everything fits
    · refine ⟨fun _ => .inr (.inl hexit), ?_⟩
      rintro - handed ⟨-, text, htext, rfl⟩
      rw [assembleRoutes_exit hexit] at htext
      split at htext
      · obtain rfl := Option.some.inj htext
        rw [lines_getD, lines_append _ (by decide), lines_full, lines_exitRoutes,
          Settings.configured, if_pos hexit]
      · cases htext
    · rw [Bool.not_eq_true] at hexit
      have hconfigured : c.configured = lines c.full := by
        rw [lines_full, Settings.configured, hexit]
        exact List.append_nil _
      simp only [hconnects, assembleRoutes_plain hexit, true_and, hconfigured, hexit]
      constructor
      · intro h
        have hlines := h _ ⟨_, rfl, rfl⟩
        rw [lines_getD, lines_take_iff] at hlines
        exact .inr (.inr hlines)
      · rintro (hno | hno | hfits) handed ⟨text, htext, rfl⟩
        · exact absurd trivial hno
        · cases hno
        · obtain rfl := Option.some.inj htext
          rw [lines_getD, lines_take_iff]
          exact hfits
  · refine ⟨fun _ => .inl hconnects, ?_⟩
    rintro - handed ⟨h, -⟩
    exact absurd h hconnects

/-- The 4via6 module contributes such a prefix, whatever it is configured with: its text is one
    line, or empty. -/
def Via.configured (st : FourVia6.State) (flag : Nat) (cidr : Option Text) (site : UInt16) :
    Via where
  enabled := (FourVia6.init st flag cidr site).1.enabled
  prefixText := (FourVia6.init st flag cidr site).2
  one_line := FourVia6.newline_not_mem_init st flag cidr site

/-- Routes to two homes and an office, the last of which ends at character 512. -/
def longRoutes : Text :=
  (List.replicate 31 "192.168.4.0/24\n".toList).flatten ++
    "192.168.100.0/24\n192.168.10.0/24\n172.16.10.0/24".toList

/-- A router with these routes, neither a 4via6 site nor an exit node. -/
def longSettings : Settings :=
  ⟨true, some "tskey".toList, some longRoutes,
    Via.configured ⟨false, 0, 0, 0, [], 0, 0⟩ 0 none 0, false, true, true⟩

/-- The last route is handed over as `172.16.10.0/2`. -/
theorem last_route_cut :
    ∃ handed, tailscaleConnect longSettings = .ok (some handed) ∧
      longSettings.configured.getLast? = some "172.16.10.0/24".toList ∧
      (lines handed).getLast? = some "172.16.10.0/2".toList ∧ ¬ longSettings.Intact := by
  refine ⟨longSettings.full.take 511, by decide +kernel, by decide +kernel, by decide +kernel, ?_⟩
  intro hintact
  have hlines := hintact (some (longSettings.full.take 511)) (by decide +kernel)
  revert hlines
  decide +kernel

end SubnetRouter.AdvertisedRoutes
