import TableTalk.Dataset

/-! The built-in dataset of a small shop. -/
namespace TableTalk.Dataset

def sampleFilename : String := "sample-ecommerce-data.csv"

/-- Product, category, price, number of sales and region. -/
def sampleSales : List (String × String × Int × Int × String) :=
  [("Laptop", "Electronics", 999, 50, "North"),
   ("Mouse", "Accessories", 25, 200, "South"),
   ("Keyboard", "Accessories", 75, 150, "East"),
   ("Monitor", "Electronics", 299, 75, "West"),
   ("Headphones", "Audio", 150, 120, "North"),
   ("Laptop Pro", "Electronics", 1299, 45, "South"),
   ("Wireless Mouse", "Accessories", 35, 180, "East"),
   ("Mechanical Keyboard", "Accessories", 125, 90, "West"),
   ("4K Monitor", "Electronics", 450, 60, "North"),
   ("Bluetooth Headphones", "Audio", 200, 110, "South"),
   ("Gaming Laptop", "Electronics", 1599, 30, "East"),
   ("USB Mouse", "Accessories", 15, 250, "West"),
   ("Ergonomic Keyboard", "Accessories", 85, 140, "North"),
   ("Ultrawide Monitor", "Electronics", 599, 40, "South"),
   ("Noise Cancelling Headphones", "Audio", 299, 80, "East"),
   ("MacBook", "Electronics", 1499, 65, "West"),
   ("Trackpad", "Accessories", 149, 70, "North"),
   ("Wireless Keyboard", "Accessories", 95, 130, "South"),
   ("Gaming Monitor", "Electronics", 399, 85, "East"),
   ("Earbuds", "Audio", 99, 190, "West")]

def sampleRows : Table :=
  sampleSales.map fun (product, category, price, sales, region) =>
    [("product_name", .text product), ("category", .text category), ("price", .int price),
     ("sales", .int sales), ("region", .text region)]

def sample (settings : Settings) : Except Problem Dataset :=
  build settings sampleRows sampleFilename

end TableTalk.Dataset
