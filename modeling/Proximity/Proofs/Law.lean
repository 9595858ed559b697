import Proximity.Proofs.Passage

/-!
# Laws

A law (`Proximity.Law`) is a relation between an earlier and a later view that
everything which can be done on a bench respects, whatever is called from inside it,
at whatever depth. To have a law one checks four things: that nothing happening is
all right, that what is done one after the other is all right, that every move is,
and that each of the four things which are not complete in themselves is finished as
the law demands – given that whatever is called meanwhile respects it, too.

That everything respects a law is `Proximity.Law.keeps_perform` and
`Proximity.Law.reacts`, in `Proximity.Proofs.Lawful`. Here is what a law is, and how
actions that respect a relation are put together.
-/

namespace Proximity

open Act Session

variable {α β : Type} {R : View → View → Prop} {b : Bench} {u : View}

/-- **What an action does to a bench stands in a relation to an earlier view.** The
bench stays wired as it was, and its history grows. -/
structure Leads (R : View → View → Prop) (u : View) (act : Act α) (b : Bench) : Prop where
  /-- The bench stays wired as it was. -/
  wired : Wired (after act b)
  /-- The history grows. -/
  grows : b.history <:+ (after act b).history
  /-- The later view stands in the relation. -/
  related : R u (after act b).view

/-- An action respects a relation wherever it is done. -/
def Keeps (R : View → View → Prop) (act : Act α) : Prop :=
  ∀ b, Wired b → Leads R b.view act b

/-- Whatever is called respects a relation. -/
def Reacts (R : View → View → Prop) (call : Reactor) : Prop := ∀ c, Keeps R (call c)

/-! ### What an action leads to -/

namespace Leads

/-- What an action does is known to the last detail. -/
theorem of_exec {act : Act α} {o : Except Fault α} {b' : Bench} (e : exec act b = (o, b'))
    (w : Wired b') (g : b.history <:+ b'.history) (r : R u b'.view) : Leads R u act b := by
  have h : after act b = b' := congrArg Prod.snd e
  exact ⟨h ▸ w, h ▸ g, h ▸ r⟩

/-- What an action leads to is said of the bench that it leaves. -/
theorem at_end {act : Act α} {o : Except Fault α} {b' : Bench} (h : Leads R u act b)
    (e : exec act b = (o, b')) : Wired b' ∧ b.history <:+ b'.history ∧ R u b'.view := by
  have end_eq : after act b = b' := congrArg Prod.snd e
  exact ⟨end_eq ▸ h.wired, end_eq ▸ h.grows, end_eq ▸ h.related⟩

theorem pure (w : Wired b) (r : R u b.view) (a : α) : Leads R u (pure a : Act α) b :=
  ⟨w, List.suffix_rfl, r⟩

theorem throw (w : Wired b) (r : R u b.view) (e : Fault) : Leads R u (throw e : Act α) b :=
  ⟨w, List.suffix_rfl, r⟩

/-- A stretch leads to the view that it shows. -/
theorem ends {act : Act α} {a : α} {v : View} (h : Ends act b a v) (w : Wired b) (r : R u v) :
    Leads R u act b := by
  obtain ⟨b', e, rfl, s⟩ := h
  exact .of_exec e (s.wired w) s.grows r

/-- An action that ends as another one does on a bench beside leads to the same. -/
theorem of_beside {act rest : Act α} {b' : Bench} (e : exec act b = exec rest b')
    (s : Beside b b') (h : Leads R u rest b') : Leads R u act b := by
  have e' : Act.after act b = Act.after rest b' := congrArg Prod.snd e
  exact ⟨e' ▸ h.wired, e' ▸ s.grows.trans h.grows, e' ▸ h.related⟩

/-- An action leads where what it passes to does. -/
theorem passes {act rest : Act α} {v : View} (h : Passes act b v rest) (w : Wired b)
    (hr : ∀ b', b'.view = v → Beside b b' → Wired b' → Leads R u rest b') : Leads R u act b := by
  obtain ⟨b', e, hv, s⟩ := h
  exact .of_beside e s (hr b' hv s (s.wired w))

/-- What is refused leads to a fatal record. -/
theorem refused {act : Act α} {v : View} (h : Refused act b v) (w : Wired b)
    (r : ∀ entry : Entry, entry.isFatal = true → R u (v.note entry)) : Leads R u act b := by
  obtain ⟨fault, entry, b', e, he, hv, s⟩ := h
  exact .of_exec e (s.wired w) s.grows (hv ▸ r entry he)

/-- What comes after a stretch starts from the view that the stretch leads to. -/
theorem after {x : Act α} {f : α → Act β} {a : α} {v : View} (h : Ends x b a v) (w : Wired b)
    (hf : ∀ b', b'.view = v → Beside b b' → Wired b' → Leads R u (f a) b') :
    Leads R u (x >>= f) b := by
  obtain ⟨b', e, hv, s⟩ := h
  exact .of_beside (exec_bind_of_ok e) s (hf b' hv s (s.wired w))

/-- What comes after an action that succeeds starts from the bench that it leaves. -/
theorem follow {x : Act α} {f : α → Act β} {a : α} {b' : Bench} (e : exec x b = (.ok a, b'))
    (g : b.history <:+ b'.history) (hf : Leads R u (f a) b') : Leads R u (x >>= f) b := by
  have e' : Act.after (x >>= f) b = Act.after (f a) b' := congrArg Prod.snd (exec_bind_of_ok e)
  exact ⟨e' ▸ hf.wired, e' ▸ g.trans hf.grows, e' ▸ hf.related⟩

/-- What is done first is known to the last detail. -/
theorem step {x : Act α} {f : α → Act β} {a : α} {b' : Bench} (e : exec x b = (.ok a, b'))
    (s : Beside b b') (hf : Leads R u (f a) b') : Leads R u (x >>= f) b :=
  .follow e s.grows hf

theorem read {x : Act α} {f : α → Act β} {a : α} (e : exec x b = (.ok a, b))
    (hf : Leads R u (f a) b) : Leads R u (x >>= f) b :=
  step e (.refl b) hf

/-- What comes after an action that may call out starts from wherever that leads. -/
theorem bind {x : Act α} {f : α → Act β} (hx : Leads R u x b)
    (hf : ∀ a b', Wired b' → b.history <:+ b'.history → R u b'.view → Leads R u (f a) b') :
    Leads R u (x >>= f) b := by
  obtain ⟨hw, hg, hr⟩ := hx
  rcases e : exec x b with ⟨_ | a, b'⟩
  · simp only [Act.after, e] at hw hg hr
    exact .of_exec (exec_bind_of_error e) hw hg hr
  · simp only [Act.after, e] at hw hg hr
    obtain ⟨hw', hg', hr'⟩ := hf a b' hw hg hr
    have e' : Act.after (x >>= f) b = Act.after (f a) b' :=
      congrArg Prod.snd (exec_bind_of_ok e)
    exact ⟨e' ▸ hw', e' ▸ hg.trans hg', e' ▸ hr'⟩

/-- Whatever is done about a failure starts from wherever that happened. -/
theorem tryCatch {x : Act α} {f : Fault → Act α} (hx : Leads R u x b)
    (hf : ∀ e b', Wired b' → R u b'.view → Leads R u (f e) b') :
    Leads R u (tryCatch x f) b := by
  obtain ⟨hw, hg, hr⟩ := hx
  have split := exec_tryCatch x f b
  rcases e : exec x b with ⟨fault | a, b'⟩
  · simp only [Act.after, e] at hw hg hr split
    obtain ⟨hw', hg', hr'⟩ := hf fault b' hw hr
    have e' : Act.after (MonadExcept.tryCatch x f) b = Act.after (f fault) b' :=
      congrArg Prod.snd split
    exact ⟨e' ▸ hw', e' ▸ hg.trans hg', e' ▸ hr'⟩
  · simp only [Act.after, e] at hw hg hr split
    exact .of_exec split hw hg hr

end Leads

/-- **What holds on a condition may be proved on that condition**, once it is known that the
bench stays wired. -/
theorem Leads.on {P : View → Prop} {Q : View → View → Prop} {act : Act α}
    (free : Leads (fun _ _ => True) u act b) (h : P u → Leads Q u act b) :
    Leads (fun v v' => P v → Q v v') u act b :=
  ⟨free.wired, free.grows, fun p => (h p).related⟩

/-- Whatever respects some relation keeps the bench wired. -/
theorem Reacts.free {call : Reactor} (C : Reacts R call) : Reacts (fun _ _ => True) call :=
  fun c b w => ⟨(C c b w).wired, (C c b w).grows, trivial⟩

/-! ### Steady relations -/

/-- **A steady relation** is respected by doing nothing, by one thing after the other,
and by every move. -/
structure Steady (R : View → View → Prop) : Prop where
  /-- Nothing may happen. -/
  refl : ∀ v, R v v
  /-- One thing may happen after the other. -/
  trans : ∀ {v₁ v₂ v₃}, R v₁ v₂ → R v₂ v₃ → R v₁ v₃
  /-- A move may be made. -/
  move : ∀ {v v'}, Move v v' → R v v'

/-- Where nothing is demanded, everything is all right. -/
theorem Steady.free : Steady fun _ _ => True :=
  ⟨fun _ => trivial, fun _ _ => trivial, fun _ => trivial⟩

/-- **A law.** Besides being steady it is respected by what goes on after a call, given
that whatever is called respects it. -/
structure Law (R : View → View → Prop) : Prop extends Steady R where
  /-- Whoever wants the fusion to work makes it do so. -/
  rise : ∀ {depth v b}, Reacts R (react depth) → Wired b → OnThread b → Rise v b.view →
    Leads R v (Fusion.activate (react depth)) b
  /-- A reading that counts is taken. -/
  accept : ∀ {depth r v b}, Reacts R (react depth) → Wired b → OnThread b → Heard r v b.view →
    Leads R v (Fusion.accept (react depth) r) b
  /-- The last fused reading is told again. -/
  alert : ∀ {depth}, Reacts R (react depth) → Keeps R (Fusion.alert (react depth))
  /-- An answer is given to those who wait for it. -/
  answer : ∀ {depth near v waiting b}, Reacts R (react depth) → Wired b →
    Close near v waiting b.view →
    Leads R v (waiting.forM fun c => Probe.answer (react depth) near c) b

/-! ### What respects a steady relation -/

namespace Steady

variable {call : Reactor}

theorem leads (S : Steady R) {act : Act α} (h : Keeps R act) (w : Wired b) (r : R u b.view) :
    Leads R u act b := by
  obtain ⟨hw, hg, hr⟩ := h b w
  exact ⟨hw, hg, S.trans r hr⟩

/-- **One after the other**: what keeps a relation may be followed by what does. -/
theorem bind (S : Steady R) {x : Act α} {f : α → Act β} (hx : Keeps R x)
    (hf : ∀ a, Keeps R (f a)) : Keeps R (x >>= f) :=
  fun b w => (hx b w).bind fun a _ w' _ r => S.leads (hf a) w' r

theorem pure (S : Steady R) (a : α) : Keeps R (pure a : Act α) :=
  fun b w => .pure w (S.refl b.view) a

theorem throw (S : Steady R) (e : Fault) : Keeps R (throw e : Act α) :=
  fun b w => .throw w (S.refl b.view) e

/-- What does not show respects the relation. -/
theorem unseen (S : Steady R) {act : Act α} (h : ∀ b, ∃ a, Ends act b a b.view) :
    Keeps R act := fun b w => by
  obtain ⟨a, e⟩ := h b
  exact .ends e w (S.refl b.view)

theorem get (S : Steady R) : Keeps R (get : Act Bench) :=
  S.unseen fun b => ⟨b, b, rfl, rfl, .refl b⟩

theorem forM (S : Steady R) {f : α → Act Unit} (l : List α) (h : ∀ a ∈ l, Keeps R (f a)) :
    Keeps R (l.forM f) := by
  induction l with
  | nil => exact S.pure ()
  | cons a l ih =>
    rw [forM_cons]
    exact S.bind (h a List.mem_cons_self) fun _ => ih fun a' ha' => h a' (List.mem_cons_of_mem a ha')

/-- Off the owner's thread nothing goes on. -/
theorem confined (S : Steady R) {f : Unit → Act α} (w : Wired b) (r : R u b.view)
    (h : OnThread b → Leads R u (f ()) b) : Leads R u (Bench.assertOwner >>= f) b := by
  by_cases ht : OnThread b
  · exact .read (exec_assertOwner ht) (h ht)
  · exact .refused ((refused_assertOwner ht).bind f) w fun entry he =>
      S.trans r (S.move (.refuse _ he))

/-- A call from another thread is refused, which is lawful. -/
theorem keeps_assertOwner (S : Steady R) : Keeps R Bench.assertOwner := fun b w => by
  by_cases ht : OnThread b
  · exact .ends (ends_assertOwner ht) w (S.refl _)
  · exact .refused (refused_assertOwner ht) w fun entry he => S.move (.refuse _ he)

end Steady

end Proximity
