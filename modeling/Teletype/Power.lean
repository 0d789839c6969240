/-!
# Powers

A power of a number is that of the core library everywhere, whatever else is imported.
-/

attribute [instance (20000), default_instance 20000] instPowNat
