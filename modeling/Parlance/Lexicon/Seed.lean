import Parlance.Lexicon.Basic

/-!
A first vocabulary of commands: verb forms stand for one infinitive an action, and a few nouns for
the words of catalogs.
-/

namespace Parlance.Lexicon

def spanishSeed : List (String × String) := [
  ("abre", "abrir"), ("abra", "abrir"), ("cierra", "cerrar"), ("cierre", "cerrar"),
  ("borra", "eliminar"), ("borre", "eliminar"), ("borrar", "eliminar"), ("elimina", "eliminar"),
  ("elimine", "eliminar"), ("quita", "eliminar"), ("quitar", "eliminar"), ("muestra", "mostrar"),
  ("muestre", "mostrar"), ("enseña", "mostrar"), ("busca", "buscar"), ("busque", "buscar"),
  ("crea", "crear"), ("cree", "crear"), ("agrega", "crear"), ("agregar", "crear"),
  ("añade", "crear"), ("añadir", "crear"), ("filtra", "filtrar"), ("activa", "activar"),
  ("enciende", "activar"), ("encender", "activar"), ("desactiva", "desactivar"),
  ("apaga", "desactivar"), ("apagar", "desactivar"), ("programa", "programar"),
  ("pedido", "orden"), ("pedidos", "órdenes")]

def englishSeed : List (String × String) := [
  ("opens", "open"), ("display", "show"), ("remove", "delete"), ("erase", "delete"),
  ("add", "create"), ("new", "create"), ("find", "search"), ("look", "search"), ("hide", "close"),
  ("activate", "enable"), ("deactivate", "disable"), ("purchase", "order"),
  ("purchases", "orders")]

/-- Files the first vocabulary under the base tags of Spanish and English. -/
def seed (lex : Lexicon) : Lexicon :=
  (lex.registerAll "es" spanishSeed).registerAll "en" englishSeed

end Parlance.Lexicon
