import PacketMeter.Capture.Bridge

/-!
# Which capture is active

A start that works leaves its device active, and one that fails or crashes leaves nothing
active.  After a stop nothing is active, whatever its steps came to.  What the readers do
is no matter here: also one that has exited belongs to the active capture.
-/

namespace PacketMeter.Capture.Bridge

theorem active?_act (b : Bridge) (worker : Nat)
    (action : Reader → Packets → Reader × Packets × List Report) :
    (b.act worker action).active? = b.active? := by
  unfold act
  split
  · rfl
  · split <;> rfl

@[simp] theorem active?_deliver (b : Bridge) (worker : Nat) (script : List Delivery) :
    (b.deliver worker script).active? = b.active? := active?_act b worker _

@[simp] theorem active?_disconnect (b : Bridge) (worker : Nat) :
    (b.disconnect worker).active? = b.active? := active?_act b worker _

section Host

variable {σ : Type} [CaptureHost σ]

theorem active?_join (b : Bridge) (cfg : CaptureConfig) (worker : Nat) (s : σ) :
    (b.join cfg worker s).2.1.active? = b.active? := by
  unfold join
  split
  · split
    · rfl
    · rfl
    · exact active?_disconnect b worker
    · rfl
  · rfl

/-- After a stop nothing is active. -/
theorem active?_stop (b : Bridge) (cfg : CaptureConfig) (s : σ) :
    (b.stop cfg s).2.1.active? = none := by
  unfold stop
  split
  · assumption
  · dsimp only
    split
    · rfl
    · split
      · rfl
      · exact active?_join _ cfg _ _

/-- What is active after a start depends on whether it worked. -/
theorem launch_cases {b : Bridge} (h : b.active? = none) (cfg : CaptureConfig)
    (device channel : Nat) (s : σ) :
    ((b.launch cfg device channel s).1 = .done () ∧
        (b.launch cfg device channel s).2.1.device? = some device) ∨
      ((∃ f, (b.launch cfg device channel s).1.result = .error f) ∧
        (b.launch cfg device channel s).2.1.active? = none) := by
  unfold launch
  split
  · exact .inr ⟨⟨_, rfl⟩, h⟩
  · exact .inr ⟨⟨_, rfl⟩, h⟩
  · split
    · exact .inr ⟨⟨_, rfl⟩, h⟩
    · exact .inl ⟨rfl, rfl⟩
    · split
      · exact .inr ⟨⟨_, rfl⟩, h⟩
      · exact .inr ⟨⟨_, rfl⟩, h⟩

theorem start_of_inactive {b : Bridge} (h : b.active? = none) (cfg : CaptureConfig)
    (device channel : Nat) (s : σ) :
    b.start cfg device channel s = b.launch cfg device channel s := by
  have hr : b.isRunning = false := by rw [isRunning, h]
  rw [start, hr, if_neg Bool.false_ne_true, stop_of_inactive cfg s h]

end Host

end PacketMeter.Capture.Bridge
